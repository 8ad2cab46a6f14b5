import PromptTemplate.Proofs.CommandLine.Outcome
import PromptTemplate.Proofs.Loading.Faults

set_option autoImplicit false

namespace PromptTemplate.CommandLine

open Session (settingsOf catalogOf)

variable {host : Host} {arguments : Arguments}

/-- What breaks a run off among the failures of its settings and its catalog: a fault without words, or a value that
cannot be written where it is to be looked up or shown. -/
inductive Breakage.IsWordless : Breakage → Prop
  | fault {fault : LoadFault} (wordless : fault.IsWordless) : IsWordless (.load (.fault fault))
  | unwritable (value : Value) : IsWordless (.load (.unwritable value))

theorem settingsOf_ne_catalog (host : Host) (arguments : Arguments) (fault : Catalog.Fault) :
    settingsOf host arguments ≠ .error (.fault (.catalog fault)) := by
  rw [settingsOf]
  split
  · exact host.settings_ne_catalog _ fault
  · simp

theorem catalogOf_ne_notIterable (host : Host) (arguments : Arguments) :
    (catalogOf host arguments).result ≠ .error (.fault (.catalog .notIterable)) := by
  rw [catalogOf]
  split
  · exact host.catalog_ne_notIterable _
  · simp

theorem message?_of_text_refused {cost : Text} {failure : Price.Failure}
    (refused : Price.read host.room host.formula .ok (.text cost) = .error failure) : failure.message? ≠ none := by
  rw [ne_eq, Price.Failure.message?_eq_none_iff]
  rintro (rfl | rfl)
  · obtain ⟨⟩ := Price.read_eq_beyondFloat_iff.mp refused
  · have unwritable := (Price.read_eq_unwritable_iff.mp refused).unwritable
    rw [Value.isWritable_text] at unwritable
    cases unwritable

/-- Of what is refused there are no words for wordless failures of files only; every price is refused in words. -/
theorem Rejects.message?_eq_none_iff {breakage : Breakage} (rejects : Rejects host arguments breakage) :
    breakage.message? = none ↔ breakage.IsWordless := by
  have loaded : ∀ failure : Failure LoadFault, failure ≠ .fault (.catalog .notIterable) →
      ((Breakage.load failure).message? = none ↔ (Breakage.load failure).IsWordless) := by
    rintro (fault | value) iterable
    · rw [Breakage.message?, Failure.message?,
        LoadFault.message?_eq_none_iff fun same => iterable (congrArg Failure.fault same)]
      constructor
      · exact .fault
      · rintro ⟨wordless⟩
        exact wordless
    · exact ⟨fun _ => .unwritable value, fun _ => rfl⟩
  cases rejects with
  | @settings failure found =>
      apply loaded
      rintro rfl
      exact settingsOf_ne_catalog host arguments _ found
  | @catalog settings failure _ found =>
      apply loaded
      rintro rfl
      exact catalogOf_ne_notIterable host arguments found
  | price _ _ found =>
      constructor
      · intro unsaid
        exact absurd unsaid (message?_of_text_refused found)
      · rintro ⟨⟩

theorem rejects_undecodable_settings {path : Text} (given : arguments.config = some path)
    (undecodable : host.document (.ofText path) = .error .undecodable) :
    Rejects host arguments (.load (.fault .undecodable)) := by
  apply Rejects.settings
  simp only [settingsOf, given, Host.settings, undecodable]
  rfl

theorem rejects_undecodable_catalog {settings : Settings} {path : Text}
    (loaded : settingsOf host arguments = .ok settings) (given : arguments.catalog = some path)
    (undecodable : host.document (.ofText path) = .error .undecodable) :
    Rejects host arguments (.load (.fault .undecodable)) := by
  apply Rejects.catalog loaded
  simp only [catalogOf, given, Host.catalog]
  split
  · next directory found =>
      rw [Host.document, found] at undecodable
      cases undecodable
  · simp only [undecodable]
    rfl

/-- A report on a prompt that was looked at says whether it is valid. -/
theorem Reports.exit_le_one {report : Report} (reports : Reports host arguments report) : report.exit ≤ 1 := by
  cases reports with
  | check =>
      rw [validate]
      split <;> simp
  | expansion _ _ presented =>
      rw [exit_of_present presented]
      split <;> decide

/-- The settings or the catalog of a run are in a file that the host cannot decode. A catalog is loaded once settings
are. -/
def NamesUndecodable (host : Host) (arguments : Arguments) (path : Text) : Prop :=
  host.document (.ofText path) = .error .undecodable ∧
    (arguments.config = some path ∨
      arguments.catalog = some path ∧ ∃ settings, settingsOf host arguments = .ok settings)

theorem NamesUndecodable.rejects {path : Text} (named : NamesUndecodable host arguments path) :
    Rejects host arguments (.load (.fault .undecodable)) := by
  obtain ⟨undecodable, given | ⟨given, settings, loaded⟩⟩ := named
  · exact rejects_undecodable_settings given undecodable
  · exact rejects_undecodable_catalog loaded given undecodable

theorem document_standard_of_undecodable {tree : FileTree} {path : FilePath} {content : ByteArray}
    (found : tree.entry path = .file content) (undecodable : FileTree.decode? content = none) :
    (Host.standard tree).document path = .error .undecodable := by
  simp [Host.document, Host.standard, Host.readDecoded, found, undecodable]

/-- Bad input is reported, but for failures without words, whatever a run finds around it. A run that refuses its
settings, its catalog or its price returns two and says why; one on a wordless failure breaks off, as does one on a
prompt of which nothing can be said, not all can be counted, or nothing can be printed. All other runs return zero or
one, unless the stream of the output refuses a text. Bytes that the host cannot decode are a wordless failure, in the
settings as in the catalog; so is a small file with bytes that are no UTF-8 where bytes are decoded at once. -/
theorem bad_input_reported_unless_wordless (host : Host) {texts : List Text} {arguments : Arguments}
    (understood : Arguments.ofTexts texts = .ok arguments) :
    ∃ ended, run host texts = .ok ended ∧
    (∀ breakage, Rejects host arguments breakage →
      (¬ breakage.IsWordless → ∃ noted words, breakage.message? = some words ∧
        ended = .ok 2 ⟨[], noted ++ ["error: " ++ words]⟩) ∧
      (breakage.IsWordless → ∃ noted, ended = .error breakage ⟨[], noted⟩)) ∧
    (∀ breakage, Breaks host arguments breakage → ∃ noted, ended = .error breakage ⟨[], noted⟩) ∧
    ((∀ breakage, ¬ Rejects host arguments breakage) → (∀ breakage, ¬ Breaks host arguments breakage) →
      (∃ exit transcript, ended = .ok exit transcript ∧ exit ≤ 1) ∨
      ∃ text transcript, ended = .error (.output text) transcript ∧ host.takes transcript.output text = false) ∧
    (∀ path, NamesUndecodable host arguments path →
      ∃ noted, ended = .error (.load (.fault .undecodable)) ⟨[], noted⟩) ∧
    ∀ tree path content, tree.entry (.ofText path) = .file content → content.size ≤ Host.firstBlock →
      FileTree.decode? content = none →
      arguments.config = some path ∨
        arguments.catalog = some path ∧ (∃ settings, settingsOf (.standard tree) arguments = .ok settings) →
      ∃ noted, run (.standard tree) texts = .ok (.error (.load (.fault .undecodable)) ⟨[], noted⟩) := by
  have rejected : ∀ {host : Host} {breakage : Breakage}, Rejects host arguments breakage → breakage.IsWordless →
      ∃ noted, (Session.ofArguments host arguments).run {} = .error breakage ⟨[], noted⟩ := by
    intro host breakage rejects wordless
    obtain ⟨noted, ended⟩ := Session.run_of_rejects rejects
    rw [Session.run_refuse, rejects.message?_eq_none_iff.mpr wordless] at ended
    exact ⟨noted, ended⟩
  refine ⟨_, run_of_ofTexts host understood, ?_, ?_, ?_, ?_, ?_⟩
  · intro breakage rejects
    refine ⟨?_, rejected rejects⟩
    intro worded
    obtain ⟨noted, ended⟩ := Session.run_of_rejects rejects
    cases said : breakage.message? with
    | none => exact absurd (rejects.message?_eq_none_iff.mp said) worded
    | some words =>
        rw [Session.run_refuse, said] at ended
        exact ⟨noted, words, rfl, ended⟩
  · exact fun breakage breaks => Session.run_of_breaks breaks
  · intro accepted unbroken
    rcases ends host arguments with ⟨breakage, rejects⟩ | ⟨breakage, breaks⟩ | ⟨report, reports⟩
    · exact absurd rejects (accepted breakage)
    · exact absurd breaks (unbroken breakage)
    · obtain ⟨noted, ended⟩ := Session.run_of_reports reports
      rw [Session.run_put] at ended
      rcases poured : pour host.takes [] report.texts with ⟨output, _ | text⟩
      · rw [poured] at ended
        exact Or.inl ⟨_, _, ended, reports.exit_le_one⟩
      · rw [poured] at ended
        obtain ⟨_, _, _, refused⟩ := pour_eq_some poured
        exact Or.inr ⟨text, _, ended, refused⟩
  · rintro path named
    exact rejected named.rejects (.fault .undecodable)
  · intro tree path content found _ undecodable given
    obtain ⟨noted, ended⟩ := rejected
      (NamesUndecodable.rejects ⟨document_standard_of_undecodable found undecodable, given⟩) (.fault .undecodable)
    exact ⟨noted, by rw [run_of_ofTexts _ understood, ended]⟩

/-- A file of settings that is missing is reported, and so is one that the system does not let be read. -/
theorem missing_settings_reported :
    let texts := ["x".toList, "--config".toList, "cfg.yml".toList]
    let closed : FileTree := { refusals := [(.ofText "cfg.yml".toList, "[Errno 13] Permission denied: 'cfg.yml'")] }
    ∃ arguments, Arguments.ofTexts texts = .ok arguments ∧
      Rejects (.standard {}) arguments (.load (.fault (.file (.ofText "cfg.yml".toList) .missing))) ∧
      (∃ noted words, run (.standard {}) texts = .ok (.ok 2 ⟨[], noted ++ ["error: " ++ words]⟩)) ∧
      ∃ noted words, run (.standard closed) texts = .ok (.ok 2 ⟨[], noted ++ ["error: " ++ words]⟩) := by
  intro texts closed
  have understood : Arguments.ofTexts texts = .ok { prompt := "x".toList, config := some "cfg.yml".toList } := by
    simp only [texts]
    cbv
  have rejects : Rejects (.standard {}) { prompt := "x".toList, config := some "cfg.yml".toList }
      (.load (.fault (.file (.ofText "cfg.yml".toList) .missing))) := .settings (by cbv)
  have denied : Rejects (.standard closed) { prompt := "x".toList, config := some "cfg.yml".toList }
      (.load (.fault (.file (.ofText "cfg.yml".toList)
        (.refused "[Errno 13] Permission denied: 'cfg.yml'")))) := by
    refine .settings ?_
    simp only [closed]
    cbv
  obtain ⟨_, ended, reported, _⟩ := bad_input_reported_unless_wordless (.standard {}) understood
  obtain ⟨noted, words, _, rfl⟩ := (reported _ rejects).1 (by rintro ⟨⟨⟩⟩)
  obtain ⟨_, stopped, told, _⟩ := bad_input_reported_unless_wordless (.standard closed) understood
  obtain ⟨said, message, _, rfl⟩ := (told _ denied).1 (by rintro ⟨⟨⟩⟩)
  exact ⟨_, understood, rejects, ⟨noted, words, ended⟩, said, message, stopped⟩

/-- A file of settings with a byte that is no UTF-8 breaks a run off, and no exit code comes out. -/
theorem undecodable_settings_not_reported :
    let tree : FileTree := { files := [(.ofText "cfg.yml".toList, ⟨#[0xff]⟩)] }
    let texts := ["x".toList, "--config".toList, "cfg.yml".toList]
    (∃ arguments, Arguments.ofTexts texts = .ok arguments ∧
      Rejects (.standard tree) arguments (.load (.fault .undecodable))) ∧
      run (.standard tree) texts = .ok (.error (.load (.fault .undecodable)) {}) := by
  intro tree texts
  have understood : Arguments.ofTexts texts = .ok { prompt := "x".toList, config := some "cfg.yml".toList } := by cbv
  have found : tree.entry (.ofText "cfg.yml".toList) = .file ⟨#[0xff]⟩ := by cbv
  have undecodable : FileTree.decode? ⟨#[0xff]⟩ = none := by decide +kernel
  have rejects : Rejects (.standard tree) { prompt := "x".toList, config := some "cfg.yml".toList }
      (.load (.fault .undecodable)) :=
    rejects_undecodable_settings rfl (document_standard_of_undecodable found undecodable)
  exact ⟨⟨_, understood, rejects⟩, by cbv⟩

end PromptTemplate.CommandLine
