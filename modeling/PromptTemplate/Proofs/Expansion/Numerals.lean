import PromptTemplate.Expansion.Evaluation
import PromptTemplate.Proofs.Bracket.Vacancy
import PromptTemplate.Proofs.Expansion.Parts
import PromptTemplate.Proofs.Expansion.Wildcards
import PromptTemplate.Proofs.Reference.Names
import PromptTemplate.Proofs.Selection.Warnings
import PromptTemplate.Proofs.Text.Numerals

set_option autoImplicit false

namespace PromptTemplate

/-- The number of units that a unit of a prompt stands for, whether or not they are made. -/
def UnitKind.selections (catalog : Catalog) : UnitKind → Nat
  | .plain _ => 1
  | .bracketed _ group => group.options.length
  | .wildcarded _ names => (names.map fun name => (catalog.entries name).length).prod

/-- A prompt that is read and has a part whose number of units is written, though there is no numeral for it. A chain
writes the number for each of its steps, and a prompt without bars if more than a few are warned of. -/
def Outnumbers (settings : Settings) (catalog : Catalog) (prompt : Text) : Prop :=
  (∃ kind, Kind.ofText? settings.maxPipelineSteps prompt = .ok kind) ∧
    ∃ part ∈ Chain.parts prompt, ∃ unit, UnitKind.ofText? part = .ok unit ∧
      Text.hasNumeral (unit.selections catalog) = false ∧
      (Chain.bar ∉ prompt → settings.warnThreshold < unit.selections catalog)

namespace Reference

theorem length_pieces_le (text : Text) : (pieces text).length ≤ text.length := by
  induction text using pieces.induct with
  | case1 => simp
  | case2 rest name after found ih =>
      have shorter := length_lt_of_opened? found
      rw [pieces_of_opened found, List.length_cons, List.length_cons]
      omega
  | case3 rest absent ih =>
      rw [pieces_of_unopened absent, List.length_cons, List.length_cons]
      omega
  | case4 c rest other ih =>
      rw [pieces_cons_of_ne other, List.length_cons, List.length_cons]
      omega

theorem length_names_le (text : Text) : (names text).length ≤ text.length := by
  have distinct : (names text).length ≤ (occurrences text).length :=
    ((nodup_names text).subperm fun name => mem_names_iff.mp).length_le
  have found : (occurrences text).length ≤ (pieces text).length := List.length_filterMap_le nameOf? _
  have whole := length_pieces_le text
  omega

end Reference

theorem Bracket.length_options_le {text : Text} {group : Group} (grouped : group? text = .ok group) :
    group.options.length ≤ text.length := by
  rw [group?] at grouped
  split at grouped
  · cases grouped
  · split at grouped
    · next before inner after cut =>
        cases grouped
        obtain ⟨rfl, _⟩ := cut?_eq_some_iff.mp cut
        have kept : (splitOptions inner).length ≤ ((Text.splitOn ',' inner).map Text.trim).length :=
          List.length_filter_le _ _
        have pieces := Text.length_splitOn_le ',' inner
        simp only [List.length_map, List.length_append, List.length_cons] at kept ⊢
        omega
    · cases grouped

section

variable {settings : Settings} {catalog : Catalog}

/-! ### Units -/

namespace Selection

theorem refusal?_cases {entries : Text → List Text} {names : List Text} {issue : Issue}
    (refused : refusal? settings entries names = some issue) :
    let total := (names.map fun name => (entries name).length).prod
    (total = 0 ∧ ∃ missing, issue = .missing missing) ∨
      settings.dangerThreshold < total ∧ issue = .tooManyCombinations total settings.dangerThreshold := by
  intro total
  by_cases resolved : unresolved entries names = []
  · rw [refusal?_of_resolved settings resolved] at refused
    split at refused
    · next above => exact Or.inr ⟨above.2, (Option.some.inj refused).symm⟩
    · cases refused
  · rw [refusal?_of_unresolved settings resolved] at refused
    obtain ⟨name, missing⟩ := List.exists_mem_of_ne_nil _ resolved
    obtain ⟨member, empty⟩ := List.mem_filter.mp missing
    refine Or.inl ⟨?_, _, (Option.some.inj refused).symm⟩
    rw [List.isEmpty_iff] at empty
    exact List.prod_eq_zero (List.mem_map.mpr ⟨name, member, by rw [empty]; rfl⟩)

theorem isWritable_warnings_iff (sound : settings.IsSound) {total names : Nat}
    (counted : Text.hasNumeral names = true) :
    (warnings settings total names).all Warning.isWritable = true ↔
      (settings.warnThreshold < total → Text.hasNumeral total = true) := by
  have ordered := sound.thresholds_ordered
  simp only [List.all_eq_true, mem_warnings]
  constructor
  · intro each above
    by_cases dangerous : settings.dangerThreshold < total
    · exact each _ (Or.inl ⟨rfl, dangerous⟩)
    · exact each _ (Or.inr (Or.inl ⟨rfl, above, by omega⟩))
  · rintro few warning (⟨rfl, above⟩ | ⟨rfl, above, _⟩ | ⟨rfl, _⟩)
    · exact few (by omega)
    · exact few above
    · exact counted

end Selection

namespace UnitKind

/-- The words for a group count no more options than the text has characters. -/
theorem isWritable_expand_bracketed (sound : settings.IsSound) {text : Text} {group : Bracket.Group}
    (short : Text.hasNumeral group.options.length = true) :
    ((bracketed text group).expand settings catalog).isWritable = true := by
  simp only [expand, Bracket.Group.units?]
  split
  · next issue refused =>
      split at refused
      · cases refused
        rfl
      · split at refused
        · next many =>
            cases refused
            have limit := Text.hasNumeral_of_le (by have := sound.maxBracketOptions_pos; omega) (Int.le_of_lt many) short
            simp [Outcome.isWritable, Outcome.refused, Issue.isWritable, short, limit]
        · cases refused
  · rfl

theorem isWritable_expand_wildcarded_iff (sound : settings.IsSound) {text : Text}
    (referring : Reference.names text ≠ []) (short : Text.hasNumeral (Reference.names text).length = true) :
    let kind := wildcarded text (Reference.names text)
    (kind.expand settings catalog).isWritable = true ↔
      (settings.warnThreshold < kind.selections catalog → Text.hasNumeral (kind.selections catalog) = true) := by
  intro kind
  have ordered := sound.thresholds_ordered
  rw [expand_wildcarded settings catalog referring]
  cases refused : Selection.refusal? settings catalog.entries (Reference.names text) with
  | none =>
      have told : (Selection.warnings settings (kind.selections catalog) (Reference.names text).length).all
          Warning.isWritable = true ↔ _ := Selection.isWritable_warnings_iff sound short
      rw [← told]
      exact Bool.eq_iff_iff.mp (Bool.and_true _)
  | some issue =>
      have alone : (Outcome.refused text [issue] (some kind) (Reference.names text)).isWritable = issue.isWritable := by
        simp [Outcome.isWritable, Outcome.refused]
      rw [alone]
      rcases Selection.refusal?_cases refused with ⟨none, _, rfl⟩ | ⟨above, rfl⟩
      · have empty : kind.selections catalog = 0 := none
        have positive := sound.warnThreshold_pos
        simp only [Issue.isWritable, true_iff]
        omega
      · have many : settings.dangerThreshold < kind.selections catalog := above
        change (Text.hasNumeral (kind.selections catalog) && Text.hasNumeral settings.dangerThreshold) = true ↔ _
        rw [Bool.and_eq_true]
        constructor
        · exact fun written _ => written.1
        · intro few
          have positive := sound.dangerThreshold_pos
          have total := few (by omega)
          exact ⟨total, Text.hasNumeral_of_le (by omega) (Int.le_of_lt many) total⟩

variable {text : Text} {kind : UnitKind} (read : ofText? text = .ok kind)
  (short : Text.hasNumeral (text.length + 1 : Nat) = true)

include read short

/-- The words for a unit are written if and only if there is a numeral for the number of its units, or no one is warned
of it. -/
theorem isWritable_expand_iff (sound : settings.IsSound) : (kind.expand settings catalog).isWritable = true ↔
    (settings.warnThreshold < kind.selections catalog → Text.hasNumeral (kind.selections catalog) = true) := by
  cases kind with
  | plain text =>
      have one : Text.hasNumeral ((plain text).selections catalog) = true := Text.hasNumeral_of_le_nat (by simp [selections]) short
      simp only [one, implies_true, iff_true]
      rfl
  | bracketed text group =>
      obtain ⟨_, rfl, grouped⟩ := ofText?_eq_bracketed_iff.mp read
      have few : Text.hasNumeral group.options.length = true :=
        Text.hasNumeral_of_le_nat (by have := Bracket.length_options_le grouped; omega) short
      have counted : Text.hasNumeral ((bracketed text group).selections catalog) = true := few
      simp only [counted, implies_true, iff_true]
      exact isWritable_expand_bracketed sound few
  | wildcarded text names =>
      obtain ⟨referring, rfl, rfl⟩ := ofText?_eq_wildcarded_iff.mp read
      exact isWritable_expand_wildcarded_iff sound referring
        (Text.hasNumeral_of_le_nat (by have := Reference.length_names_le text; omega) short)

omit short in
theorem length_units_of_valid (valid : (kind.expand settings catalog).isValid = true) :
    (kind.expand settings catalog).units.length = kind.selections catalog := by
  cases kind with
  | plain text => rfl
  | bracketed text group =>
      simp only [expand] at valid ⊢
      cases made : group.units? settings with
      | error issue =>
          rw [made] at valid
          cases valid
      | ok units =>
          obtain ⟨_, _, rfl⟩ := Bracket.Group.units?_eq_ok_iff.mp made
          exact List.length_map _
  | wildcarded text names =>
      obtain ⟨referring, rfl, rfl⟩ := ofText?_eq_wildcarded_iff.mp read
      rw [units_of_wildcarded referring valid, Selection.length_units]
      rfl

/-- A unit that is refused though the words for the reason are written stands for few units. -/
theorem hasNumeral_of_refused (sound : settings.IsSound) (refused : (kind.expand settings catalog).isValid = false)
    (written : (kind.expand settings catalog).isWritable = true) :
    Text.hasNumeral (kind.selections catalog) = true := by
  by_cases above : settings.warnThreshold < kind.selections catalog
  · exact (isWritable_expand_iff read short sound).mp written above
  · cases kind with
    | plain text => cases refused
    | bracketed text group =>
        obtain ⟨_, rfl, grouped⟩ := ofText?_eq_bracketed_iff.mp read
        exact Text.hasNumeral_of_le_nat
          (by have := Bracket.length_options_le grouped; simp only [selections]; omega) short
    | wildcarded text names =>
        obtain ⟨referring, rfl, rfl⟩ := ofText?_eq_wildcarded_iff.mp read
        rw [expand_wildcarded settings catalog referring] at refused
        split at refused
        · next issue found =>
            have ordered := sound.thresholds_ordered
            rcases Selection.refusal?_cases found with ⟨none, _⟩ | ⟨many, _⟩
            · have empty : (wildcarded text (Reference.names text)).selections catalog = 0 := none
              rw [empty]
              exact Text.hasNumeral_of_le_nat (Nat.zero_le _) short
            · simp only [selections] at above
              omega
        · cases refused

end UnitKind

/-! ### Steps -/

namespace Chain

theorem stepIsWritable_iff {step : Step} (placed : Text.hasNumeral step.index = true) :
    stepIsWritable step = true ↔ step.outcome.isWritable = true ∧
      (1 < step.outcome.units.length → Text.hasNumeral step.outcome.units.length = true) := by
  have variants : (if 1 < step.outcome.units.length then
        [Warning.unusedVariants step.index step.outcome.units.length] else []).all Warning.isWritable = true ↔
      (1 < step.outcome.units.length → Text.hasNumeral step.outcome.units.length = true) := by
    split
    · next several => simp [Warning.isWritable, placed, several]
    · next single => simp [single]
  simp only [stepIsWritable, stepWarnings, stepIssues, List.all_append, Bool.and_eq_true, variants, List.all_map,
    Function.comp_def, Warning.isWritable_atStep, Issue.isWritable_atStep, placed, Bool.true_and, Outcome.isWritable]
  exact and_right_comm

/-- A chain writes how many units one of its steps stands for. -/
theorem stepIsWritable_expand_iff (sound : settings.IsSound) {text : Text} {kind : UnitKind}
    (read : UnitKind.ofText? text = .ok kind) (short : Text.hasNumeral (text.length + 1 : Nat) = true) {position : Nat}
    (placed : Text.hasNumeral position = true) :
    stepIsWritable ⟨kind.text, position, kind.expand settings catalog⟩ = true ↔
      Text.hasNumeral (kind.selections catalog) = true := by
  have alone : (kind.expand settings catalog).isWritable = true ↔ _ := kind.isWritable_expand_iff read short sound
  rw [stepIsWritable_iff placed]
  constructor
  · rintro ⟨written, variants⟩
    cases valid : (kind.expand settings catalog).isValid with
    | false => exact UnitKind.hasNumeral_of_refused read short sound valid written
    | true =>
        rw [UnitKind.length_units_of_valid read valid] at variants
        by_cases several : 1 < kind.selections catalog
        · exact variants several
        · exact Text.hasNumeral_of_le_nat (by omega) short
  · intro few
    refine ⟨alone.mpr fun _ => few, fun several => ?_⟩
    cases valid : (kind.expand settings catalog).isValid with
    | false =>
        rw [((kind.expand_consistent settings catalog).empty valid).1] at several
        cases several
    | true =>
        rw [UnitKind.length_units_of_valid read valid]
        exact few

theorem isWritable_lengthWarnings {steps : Nat} (short : Text.hasNumeral steps = true) :
    (lengthWarnings steps).all Warning.isWritable = true := by
  rw [lengthWarnings]
  split <;> split <;> simp [Warning.isWritable, short]

variable {prompt : Text} (short : Text.hasNumeral (prompt.length + 1 : Nat) = true)

include short

theorem hasNumeral_of_mem_splitSteps {part : Text} (among : part ∈ splitSteps prompt) :
    Text.hasNumeral (part.length + 1 : Nat) = true := by
  obtain ⟨segment, inside, rfl⟩ := List.mem_map.mp among
  have shorter := ((Text.trim_sublist segment).trans (Text.sublist_of_mem_splitOn inside)).length_le
  exact Text.hasNumeral_of_le_nat (by omega) short

/-- The words for a chain are written if and only if there is a numeral for the number of units of each of its steps. -/
theorem isWritable_expand_iff (sound : settings.IsSound) {kinds : List UnitKind}
    (read : (splitSteps prompt).map UnitKind.ofText? = kinds.map .ok) :
    (expand settings catalog prompt kinds).isWritable = true ↔
      ∀ kind ∈ kinds, Text.hasNumeral (kind.selections catalog) = true := by
  have count : kinds.length ≤ prompt.length + 1 := by
    have lengths := congrArg List.length read
    have segments := Text.length_splitOn_le bar prompt
    simp only [List.length_map, splitSteps] at lengths
    omega
  have steps : (lengthWarnings (expandSteps settings catalog 1 kinds).length).all Warning.isWritable = true := by
    rw [length_expandSteps]
    exact isWritable_lengthWarnings (Text.hasNumeral_of_le_nat count short)
  rw [expand, isWritable_ofSteps, steps, Bool.and_true, expandSteps_eq_map, List.all_map, List.all_eq_true]
  have each : ∀ entry ∈ kinds.zipIdx 1,
      (stepIsWritable ⟨entry.1.text, entry.2, entry.1.expand settings catalog⟩ = true ↔
        Text.hasNumeral (entry.1.selections catalog) = true) := by
    intro entry member
    obtain ⟨part, among, _, alone, rfl⟩ := (UnitKind.exists_mem_of_read read (entry.1 = ·)).mp
      ⟨entry.1, List.fst_mem_of_mem_zipIdx member, rfl⟩
    have placed := List.mem_zipIdx member
    exact stepIsWritable_expand_iff sound alone (hasNumeral_of_mem_splitSteps short among)
      (Text.hasNumeral_of_le_nat (by omega) short)
  constructor
  · intro written kind member
    rw [← List.zipIdx_map_fst 1 kinds] at member
    obtain ⟨entry, among, rfl⟩ := List.mem_map.mp member
    exact (each entry among).mp (written entry among)
  · intro few entry member
    exact (each entry member).mpr (few entry.1 (List.fst_mem_of_mem_zipIdx member))

end Chain

/-! ### Prompts -/

theorem Chain.firstBlank?_lt {position found : Nat} {segments : List Text}
    (blank : firstBlank? position segments = some found) : found < position + segments.length := by
  induction segments generalizing position with
  | nil => cases blank
  | cons segment rest ih =>
      rw [firstBlank?] at blank
      rw [List.length_cons]
      split at blank
      · cases blank
        omega
      · have later := ih blank
        omega

theorem UnitKind.issue_of_unread_steps {texts : List Text} {position : Nat} {issue : Issue}
    (refused : ofSteps? position texts = .error issue) :
    ∃ index fault, index < position + texts.length ∧ issue = .atStep index (.bracket fault) := by
  induction texts generalizing position with
  | nil => cases refused
  | cons step rest ih =>
      rw [ofSteps?] at refused
      rw [List.length_cons]
      cases read : ofText? step with
      | error fault =>
          rw [read] at refused
          cases refused
          exact ⟨position, fault, by omega, rfl⟩
      | ok unit =>
          cases later : ofSteps? (position + 1) rest with
          | ok kinds => simp [read, later, Except.map] at refused
          | error other =>
              simp only [read, later, Except.map, Except.error.injEq] at refused
              obtain ⟨index, fault, behind, told⟩ := ih (refused ▸ later)
              exact ⟨index, fault, by omega, told⟩

section

variable {prompt : Text} (short : Text.hasNumeral (prompt.length + 1 : Nat) = true)

include short

theorem Chain.isWritable_of_fault? {maxSteps : Int} {fault : Fault} (limited : 1 ≤ maxSteps)
    (found : fault? maxSteps prompt = some fault) : fault.isWritable = true := by
  have segments : Text.hasNumeral (Text.splitOn bar prompt).length = true :=
    Text.hasNumeral_of_le_nat (Text.length_splitOn_le bar prompt) short
  simp only [fault?] at found
  split at found
  · cases found
  · split at found
    · cases found
      rfl
    · split at found
      · next position blank =>
          cases found
          have before := firstBlank?_lt blank
          exact Text.hasNumeral_of_le_nat (by omega) segments
      · split at found
        · next many =>
            cases found
            have limit := Text.hasNumeral_of_le (by omega) (Int.le_of_lt many) segments
            simp [Fault.isWritable, segments, limit]
        · cases found

/-- The words for a prompt that cannot be read count no further than its characters. -/
theorem Kind.isWritable_of_unread {maxSteps : Int} {issue : Issue} (limited : 1 ≤ maxSteps)
    (refused : ofText? maxSteps prompt = .error issue) : issue.isWritable = true := by
  by_cases barred : Chain.bar ∈ prompt
  · rw [ofText?_of_barred _ barred] at refused
    cases sound : Chain.fault? maxSteps prompt with
    | some fault =>
        rw [sound] at refused
        cases refused
        exact Chain.isWritable_of_fault? short limited sound
    | none =>
        rw [sound] at refused
        cases read : UnitKind.ofSteps? 1 (Chain.splitSteps prompt) with
        | ok kinds => simp [read, Except.map] at refused
        | error other =>
            simp only [read, Except.map, Except.error.injEq] at refused
            obtain ⟨index, fault, among, rfl⟩ := UnitKind.issue_of_unread_steps read
            have segments := Text.length_splitOn_le Chain.bar prompt
            rw [Chain.splitSteps, List.length_map] at among
            rw [← refused, Issue.isWritable_atStep, Text.hasNumeral_of_le_nat (by omega) short]
            rfl
  · rw [ofText?_of_unbarred _ barred] at refused
    cases read : UnitKind.ofText? prompt with
    | ok unit => simp [read] at refused
    | error fault =>
        rw [read] at refused
        cases refused
        rfl

/-- What is said about a prompt is written, unless the number of units of one of its parts is to be told and there is no
numeral for it. -/
theorem isWritable_expand_iff (sound : settings.IsSound) :
    (expand settings catalog prompt).isWritable = true ↔ ¬ Outnumbers settings catalog prompt := by
  cases reading : Kind.ofText? settings.maxPipelineSteps prompt with
  | error issue =>
      have written := Kind.isWritable_of_unread short sound.maxPipelineSteps_pos reading
      have unread : ¬ Outnumbers settings catalog prompt := by
        rintro ⟨⟨kind, read⟩, _⟩
        cases reading.symm.trans read
      rw [expand_of_unread catalog reading]
      simp [unread, Expansion.unread, Outcome.isWritable, Outcome.refused, written]
  | ok kind =>
      rcases Kind.cases_of_ofText? reading with ⟨unit, unbarred, alone, rfl⟩ | ⟨kinds, barred, passed, steps, rfl⟩
      · have single : (expand settings catalog prompt).isWritable = (unit.expand settings catalog).isWritable := by
          rw [expand_of_unit settings catalog unbarred alone]
          rfl
        rw [single, unit.isWritable_expand_iff alone short sound]
        simp only [Outnumbers, reading, Chain.parts_of_unbarred unbarred, List.mem_singleton, exists_eq_left, alone,
          Except.ok.injEq, exists_eq_left', exists_eq', true_and, unbarred, not_false_eq_true, true_implies]
        rw [not_and', Bool.not_eq_false]
      · rw [expand_of_chain catalog barred passed steps, Chain.isWritable_expand_iff short sound steps]
        simp only [Outnumbers, reading, Chain.parts_of_barred barred, barred, Except.ok.injEq, exists_eq', true_and,
          not_true_eq_false, false_implies, and_true]
        rw [← UnitKind.exists_mem_of_read steps]
        simp

theorem evaluate_eq_error_iff_outnumbers (sound : settings.IsSound) :
    evaluate settings catalog prompt = .error .unwritable ↔ Outnumbers settings catalog prompt := by
  rw [evaluate_eq_error_iff, Bool.eq_false_iff, ne_eq, isWritable_expand_iff short sound, not_not]

end

end

end PromptTemplate
