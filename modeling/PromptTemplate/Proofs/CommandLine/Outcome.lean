import PromptTemplate.CommandLine.Run
import PromptTemplate.Proofs.Cost.Pricing
import PromptTemplate.Proofs.Expansion.Consistency
import PromptTemplate.Proofs.Settings.InPlace

set_option autoImplicit false

namespace PromptTemplate.CommandLine

/-- What a stream takes of texts one after the other, and the first text that it refuses. -/
def pour (takes : Text → Text → Bool) (before : Text) : List Text → Text × Option Text
  | [] => (before, none)
  | text :: rest => if takes before text then pour takes (before ++ text) rest else (before, some text)

theorem pour_eq_none {takes : Text → Text → Bool} {before output : Text} {texts : List Text}
    (poured : pour takes before texts = (output, none)) : output = before ++ texts.flatten := by
  induction texts generalizing before with
  | nil =>
      cases poured
      simp
  | cons text rest ih =>
      rw [pour] at poured
      split at poured
      · rw [ih poured, List.flatten_cons, List.append_assoc]
      · cases poured

theorem pour_eq_some {takes : Text → Text → Bool} {before output text : Text} {texts : List Text}
    (poured : pour takes before texts = (output, some text)) :
    ∃ taken, texts[taken]? = some text ∧ output = before ++ (texts.take taken).flatten ∧
      takes output text = false := by
  induction texts generalizing before with
  | nil => cases poured
  | cons first rest ih =>
      rw [pour] at poured
      split at poured
      · obtain ⟨taken, found, written, refused⟩ := ih poured
        refine ⟨taken + 1, found, ?_, refused⟩
        rw [written, List.take_succ_cons, List.flatten_cons, List.append_assoc]
      · next refused =>
          cases poured
          exact ⟨0, rfl, by simp, Bool.eq_false_of_not_eq_true refused⟩

namespace Session

variable (host : Host)

theorem run_remark (line : String) (transcript : Transcript) :
    (remark line).run transcript = .ok () { transcript with remarks := transcript.remarks ++ [line] } :=
  rfl

theorem run_forM_remark (lines : List String) (transcript : Transcript) :
    (lines.forM remark).run transcript = .ok () { transcript with remarks := transcript.remarks ++ lines } := by
  induction lines generalizing transcript with
  | nil =>
      rw [List.append_nil]
      rfl
  | cons line lines ih =>
      change (remark line >>= fun _ => lines.forM remark).run transcript = _
      rw [EStateM.run_bind, run_remark]
      simp only [ih, List.append_assoc, List.singleton_append]

theorem run_note (verbose : Bool) (events : List Event) (transcript : Transcript) :
    (note verbose events).run transcript =
      .ok () { transcript with remarks := transcript.remarks ++ notes verbose events } :=
  run_forM_remark (notes verbose events) transcript

theorem run_write (text : Text) (transcript : Transcript) :
    (write host text).run transcript =
      if host.takes transcript.output text then
        .ok () { transcript with output := transcript.output ++ text }
      else .error (.output text) transcript := by
  change (if _ then _ else _ : Session Unit).run transcript = _
  split <;> rfl

theorem run_forM_write (texts : List Text) (transcript : Transcript) :
    (texts.forM (write host)).run transcript =
      match pour host.takes transcript.output texts with
      | (output, none) => .ok () { transcript with output }
      | (output, some text) => .error (.output text) { transcript with output } := by
  induction texts generalizing transcript with
  | nil => rfl
  | cons text rest ih =>
      change (write host text >>= fun _ => rest.forM (write host)).run transcript = _
      rw [EStateM.run_bind, run_write, pour]
      by_cases taken : host.takes transcript.output text = true
      · rw [if_pos taken, if_pos taken]
        exact ih _
      · rw [if_neg taken, if_neg taken]

theorem run_put (report : Report) (transcript : Transcript) :
    (put host report).run transcript =
      match pour host.takes transcript.output report.texts with
      | (output, none) => .ok report.exit ⟨output, transcript.remarks ++ report.remarks⟩
      | (output, some text) => .error (.output text) ⟨output, transcript.remarks⟩ := by
  rw [put, EStateM.run_bind, run_forM_write]
  rcases pour host.takes transcript.output report.texts with ⟨output, _ | text⟩
  · simp only [EStateM.run_bind, run_forM_remark]
    rfl
  · rfl

theorem run_refuse (breakage : Breakage) (transcript : Transcript) :
    (refuse breakage).run transcript =
      match breakage.message? with
      | some words => .ok 2 { transcript with remarks := transcript.remarks ++ ["error: " ++ words] }
      | none => .error breakage transcript := by
  rw [refuse]
  cases breakage.message? <;> rfl

end Session

open Session (settingsOf catalogOf)

structure Loads (host : Host) (arguments : Arguments) (settings : Settings) (catalog : Catalog) : Prop where
  settings : settingsOf host arguments = .ok settings
  catalog : (catalogOf host arguments).result = .ok catalog

/-- The expansion that a run comes to, if it asks for one. -/
structure Expands (host : Host) (arguments : Arguments) (settings : Settings) (expansion : Expansion) : Prop where
  loads : ∃ catalog, Loads host arguments settings catalog ∧
    evaluate settings catalog arguments.prompt = .ok expansion
  asked : arguments.validate = false

/-- A run on settings, a catalog or a price that is refused, and the failure in it. A price matters only to
runs that have expanded the prompt. -/
inductive Rejects (host : Host) (arguments : Arguments) : Breakage → Prop
  | settings {failure : Failure LoadFault} (found : settingsOf host arguments = .error failure) :
      Rejects host arguments (.load failure)
  | catalog {settings : Settings} {failure : Failure LoadFault} (loaded : settingsOf host arguments = .ok settings)
      (found : (catalogOf host arguments).result = .error failure) : Rejects host arguments (.load failure)
  | price {settings : Settings} {expansion : Expansion} {cost : Text} {failure : Price.Failure}
      (expands : Expands host arguments settings expansion) (given : arguments.cost = some cost)
      (found : Price.read host.room host.formula .ok (.text cost) = .error failure) :
      Rejects host arguments (.estimate (.price failure))

/-- A run on accepted settings, catalog and price that nothing more is said of, and why: what is to be said of the
prompt cannot be written, there are more units than a float can count, or the document cannot be printed. -/
inductive Breaks (host : Host) (arguments : Arguments) : Breakage → Prop
  | check {settings : Settings} {catalog : Catalog} {issue : Issue} (loads : Loads host arguments settings catalog)
      (validates : arguments.validate = true)
      (unread : Kind.ofText? settings.maxPipelineSteps arguments.prompt = .error issue)
      (unwritable : issue.isWritable = false) : Breaks host arguments (.check issue)
  | expansion {settings : Settings} {catalog : Catalog} (loads : Loads host arguments settings catalog)
      (asked : arguments.validate = false)
      (unwritable : (expand settings catalog arguments.prompt).isWritable = false) :
      Breaks host arguments (.expansion .unwritable)
  | count {settings : Settings} {expansion : Expansion} {cost : Value} {price : Float}
      (expands : Expands host arguments settings expansion)
      (chosen : (arguments.cost.map .text).or settings.perUnitCost = some cost)
      (accepted : Price.read host.room host.formula .ok cost = .ok price)
      (beyond : Decimal.leastBeyondFloat ≤ expansion.totalCount) : Breaks host arguments (.estimate .countBeyondFloat)
  | print {settings : Settings} {expansion : Expansion} {estimate : Option Estimate}
      (expands : Expands host arguments settings expansion)
      (billed : expansion.bill host.room host.formula settings (arguments.cost.map .text) = .ok estimate)
      (asked : arguments.yaml = true) (unprinted : host.print (document expansion estimate) = none) :
      Breaks host arguments (.print (document expansion estimate))

/-- A run that comes to a report: on whether the prompt can be read, or on its expansion. -/
inductive Reports (host : Host) (arguments : Arguments) : Report → Prop
  | check {settings : Settings} {catalog : Catalog} (loads : Loads host arguments settings catalog)
      (validates : arguments.validate = true)
      (writable : ∀ issue, Kind.ofText? settings.maxPipelineSteps arguments.prompt = .error issue →
        issue.isWritable = true) : Reports host arguments (validate arguments [] settings)
  | expansion {settings : Settings} {expansion : Expansion} {estimate : Option Estimate} {report : Report}
      (expands : Expands host arguments settings expansion)
      (billed : expansion.bill host.room host.formula settings (arguments.cost.map .text) = .ok estimate)
      (presented : present host arguments expansion estimate = .ok report) : Reports host arguments report

variable {host : Host} {arguments : Arguments}

theorem run_of_ofTexts (host : Host) {texts : List Text} (understood : Arguments.ofTexts texts = .ok arguments) :
    run host texts = .ok ((Session.ofArguments host arguments).run {}) := by
  rw [run, understood]

theorem isSound_of_settingsOf {settings : Settings} (loaded : settingsOf host arguments = .ok settings) :
    settings.IsSound := by
  rw [settingsOf] at loaded
  split at loaded
  · next path given =>
      obtain ⟨document, _, made⟩ := Settings.bind_eq_ok.mp loaded
      exact Settings.isSound_of_read (Settings.mapError_eq_ok.mp made)
  · cases loaded
    exact Settings.isSound_standard

theorem exit_of_present {expansion : Expansion} {estimate : Option Estimate} {report : Report}
    (presented : present host arguments expansion estimate = .ok report) :
    report.exit = if expansion.isValid then 0 else 1 := by
  simp only [present] at presented
  split at presented
  · split at presented
    · cases presented
      rfl
    · cases presented
  · cases presented
    rfl

theorem Expands.eq_expand {settings : Settings} {expansion : Expansion}
    (expands : Expands host arguments settings expansion) :
    ∃ catalog, Loads host arguments settings catalog ∧ expand settings catalog arguments.prompt = expansion := by
  obtain ⟨⟨catalog, loads, evaluated⟩, _⟩ := expands
  exact ⟨catalog, loads, ((evaluate_eq_ok_iff settings catalog).mp evaluated).2⟩

/-! ### The ends of a run -/

namespace Session

theorem run_of_loads {settings : Settings} {catalog : Catalog} (loads : Loads host arguments settings catalog) :
    (ofArguments host arguments).run {} =
      (if arguments.validate then check host arguments settings
        else expandAndPresent host arguments settings catalog).run
          ⟨[], notes arguments.verbose (catalogOf host arguments).events⟩ := by
  rw [ofArguments, loads.settings]
  simp only [EStateM.run_bind, run_note, loads.catalog, List.nil_append]

theorem run_of_expands {settings : Settings} {expansion : Expansion}
    (expands : Expands host arguments settings expansion) :
    ∃ noted, (ofArguments host arguments).run {} =
      (match expansion.bill host.room host.formula settings (arguments.cost.map .text) with
        | .error failure => refuse (.estimate failure)
        | .ok estimate =>
          match present host arguments expansion estimate with
          | .error breakage => throw breakage
          | .ok report => put host report).run ⟨[], noted⟩ := by
  obtain ⟨⟨catalog, loads, evaluated⟩, asked⟩ := expands
  rw [run_of_loads loads, asked, if_neg Bool.false_ne_true, expandAndPresent, evaluated]
  simp only [EStateM.run_bind, run_note]
  exact ⟨_, rfl⟩

theorem run_of_rejects {breakage : Breakage} (rejects : Rejects host arguments breakage) :
    ∃ noted, (ofArguments host arguments).run {} = (refuse breakage).run ⟨[], noted⟩ := by
  cases rejects with
  | settings found =>
      rw [ofArguments, found]
      exact ⟨_, rfl⟩
  | catalog loaded found =>
      rw [ofArguments, loaded]
      simp only [EStateM.run_bind, run_note, found]
      exact ⟨_, rfl⟩
  | @price settings expansion cost failure expands given found =>
      have chosen : (arguments.cost.map .text).or settings.perUnitCost = some (.text cost) := by
        rw [given]
        rfl
      obtain ⟨noted, ends⟩ := run_of_expands expands
      rw [bill_of_refused expansion chosen found] at ends
      exact ⟨noted, ends⟩

/-- A run that breaks off has written nothing to the output. -/
theorem run_of_breaks {breakage : Breakage} (breaks : Breaks host arguments breakage) :
    ∃ noted, (ofArguments host arguments).run {} = .error breakage ⟨[], noted⟩ := by
  cases breaks with
  | check loads validates unread unwritable =>
      rw [run_of_loads loads, validates, if_pos rfl, check, unread]
      simp only [unwritable, Bool.false_eq_true, ↓reduceIte]
      exact ⟨_, rfl⟩
  | @expansion settings catalog loads asked unwritable =>
      rw [run_of_loads loads, asked, if_neg Bool.false_ne_true, expandAndPresent, evaluate_eq, Expansion.stated,
        unwritable]
      exact ⟨_, rfl⟩
  | @count settings expansion cost price expands chosen accepted beyond =>
      obtain ⟨noted, ends⟩ := run_of_expands expands
      obtain ⟨catalog, _, rfl⟩ := expands.eq_expand
      rw [bill_of_accepted _ chosen accepted, (estimate?_eq_none_iff settings catalog _ price).mpr beyond] at ends
      exact ⟨noted, ends⟩
  | print expands billed asked unprinted =>
      obtain ⟨noted, ends⟩ := run_of_expands expands
      rw [billed] at ends
      simp only [present, asked, ↓reduceIte, unprinted] at ends
      exact ⟨noted, ends⟩

/-- A run that comes to a report writes it, as far as the stream takes it. -/
theorem run_of_reports {report : Report} (reports : Reports host arguments report) :
    ∃ noted, (ofArguments host arguments).run {} = (put host report).run ⟨[], noted⟩ := by
  cases reports with
  | @check settings catalog loads validates writable =>
      rw [run_of_loads loads, validates, if_pos rfl, check]
      cases read : Kind.ofText? settings.maxPipelineSteps arguments.prompt with
      | error issue =>
          simp only [writable issue read, ↓reduceIte]
          exact ⟨_, rfl⟩
      | ok kind => exact ⟨_, rfl⟩
  | expansion expands billed presented =>
      obtain ⟨noted, ends⟩ := run_of_expands expands
      rw [billed] at ends
      simp only [presented] at ends
      exact ⟨noted, ends⟩

end Session

theorem ends_of_accepted {settings : Settings} {expansion : Expansion} {estimate : Option Estimate}
    (expands : Expands host arguments settings expansion)
    (billed : expansion.bill host.room host.formula settings (arguments.cost.map .text) = .ok estimate) :
    (∃ breakage, Breaks host arguments breakage) ∨ ∃ report, Reports host arguments report := by
  cases asked : arguments.yaml with
  | false => exact Or.inr ⟨_, .expansion expands billed (by simp only [present, asked]; rfl)⟩
  | true =>
      cases printed : host.print (document expansion estimate) with
      | none => exact Or.inl ⟨_, .print expands billed asked printed⟩
      | some text =>
          exact Or.inr ⟨_, .expansion expands billed (by simp only [present, asked, printed]; rfl)⟩

/-- A run that expands its prompt is refused for its price, breaks off, or reports. -/
theorem ends_of_expands {settings : Settings} {expansion : Expansion}
    (loaded : settingsOf host arguments = .ok settings) (expands : Expands host arguments settings expansion) :
    (∃ breakage, Rejects host arguments breakage) ∨ (∃ breakage, Breaks host arguments breakage) ∨
      ∃ report, Reports host arguments report := by
  cases chosen : (arguments.cost.map Value.text).or settings.perUnitCost with
  | none => exact Or.inr (ends_of_accepted expands (bill_of_unpriced expansion chosen))
  | some cost =>
      cases read : Price.read host.room host.formula .ok cost with
      | ok price =>
          have billed := bill_of_accepted expansion chosen read
          obtain ⟨catalog, _, made⟩ := expands.eq_expand
          cases reckoned : expansion.workload.estimate? price with
          | none =>
              rw [← made, estimate?_eq_none_iff, made] at reckoned
              exact Or.inr (Or.inl ⟨_, .count expands chosen read reckoned⟩)
          | some estimate =>
              rw [reckoned] at billed
              exact Or.inr (ends_of_accepted expands billed)
      | error failure =>
          cases given : arguments.cost with
          | some text =>
              rw [given] at chosen
              cases chosen
              exact Or.inl ⟨_, .price expands given read⟩
          | none =>
              -- A price of the settings was checked when they were loaded.
              rw [given, Option.map_none, Option.none_or] at chosen
              rcases (isSound_of_settingsOf loaded).cost_sound with unpriced | ⟨price, priced, allowed⟩
              · rw [unpriced] at chosen
                cases chosen
              · rw [priced] at chosen
                cases chosen
                have accepted : Price.read host.room host.formula .ok (.float price) = .ok price :=
                  Price.read_eq_ok_iff.mpr ⟨rfl, by simp [allowed]⟩
                rw [accepted] at read
                cases read

/-- A run is refused, breaks off, or reports. -/
theorem ends (host : Host) (arguments : Arguments) :
    (∃ breakage, Rejects host arguments breakage) ∨ (∃ breakage, Breaks host arguments breakage) ∨
      ∃ report, Reports host arguments report := by
  cases loaded : settingsOf host arguments with
  | error failure => exact Or.inl ⟨_, .settings loaded⟩
  | ok settings =>
  cases listed : (catalogOf host arguments).result with
  | error failure => exact Or.inl ⟨_, .catalog loaded listed⟩
  | ok catalog =>
  have loads : Loads host arguments settings catalog := ⟨loaded, listed⟩
  cases asked : arguments.validate with
  | true =>
      by_cases writable : ∀ issue, Kind.ofText? settings.maxPipelineSteps arguments.prompt = .error issue →
          issue.isWritable = true
      · exact Or.inr (Or.inr ⟨_, .check loads asked writable⟩)
      · push Not at writable
        obtain ⟨issue, unread, unwritable⟩ := writable
        exact Or.inr (Or.inl ⟨_, .check loads asked unread (Bool.eq_false_of_not_eq_true unwritable)⟩)
  | false =>
      by_cases writable : (expand settings catalog arguments.prompt).isWritable = true
      · exact ends_of_expands loaded
          ⟨⟨catalog, loads, (evaluate_eq_ok_iff settings catalog).mpr ⟨writable, rfl⟩⟩, asked⟩
      · exact Or.inr (Or.inl ⟨_, .expansion loads asked (Bool.eq_false_of_not_eq_true writable)⟩)

end PromptTemplate.CommandLine
