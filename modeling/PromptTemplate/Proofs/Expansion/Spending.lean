import PromptTemplate.Proofs.Expansion.FailClosed
import PromptTemplate.Proofs.Expansion.Limits

set_option autoImplicit false

namespace PromptTemplate

namespace UnitKind

/-- What a unit of a kind comes to at most, and what is announced of it: plain text is one unit, a group has no more
units than a group may have options, and of a wildcarded text the number of units is announced and, if the thresholds
are enforced, no danger. -/
def Spends {κ : Type} (settings : Settings) (outcome : Outcome κ) : UnitKind → Prop
  | .plain _ => outcome.totalCount = 1
  | .bracketed _ _ => (outcome.totalCount : Int) ≤ settings.maxBracketOptions
  | .wildcarded _ _ =>
    settings.Announces outcome.units.length (outcome.warnings.map Warning.message) ∧
      (settings.enforceThresholds = true → (outcome.totalCount : Int) ≤ settings.dangerThreshold ∧
        ∀ message ∈ outcome.warnings.map Warning.message, ¬ Begins "DANGER" message)

/-- A unit beyond the limit for its kind: a group of too many options, or a wildcarded text whose names all have
entries, with more selections than an enforced threshold lets pass. -/
def Exceeds (settings : Settings) (catalog : Catalog) : UnitKind → Prop
  | .plain _ => False
  | .bracketed _ group => settings.maxBracketOptions < group.options.length
  | .wildcarded _ names =>
    (∀ name ∈ names, catalog.entries name ≠ []) ∧ settings.enforceThresholds = true ∧
      settings.dangerThreshold < ((names.map fun name => (catalog.entries name).length).prod : Nat)

end UnitKind

/-- An outcome that is refused for the one reason that a limit is passed. -/
structure Outcome.Overflows {κ : Type} (outcome : Outcome κ) : Prop where
  invalid : outcome.isValid = false
  diagnosed : ∃ diagnostic, outcome.diagnostics = [diagnostic] ∧ diagnostic.kind = .overflow
  units : outcome.units = []

theorem Outcome.refused_overflows {κ : Type} (prompt : Text) {issue : Issue} (overflow : issue.kind = .overflow)
    (kind : Option κ) (names : List Text) : (refused prompt [issue] kind names).Overflows :=
  ⟨rfl, ⟨issue.diagnostic, rfl, (issue.kind_diagnostic).trans overflow⟩, rfl⟩

section

variable {settings : Settings} {catalog : Catalog}

/-! ### One unit -/

theorem Bracket.Group.length_le_of_units? {group : Group} {units : List Text}
    (made : group.units? settings = .ok units) : (units.length : Int) ≤ settings.maxBracketOptions := by
  obtain ⟨_, few, rfl⟩ := units?_eq_ok_iff.mp made
  rwa [List.length_map]

theorem Selection.le_of_refusal?_eq_none {entries : Text → List Text} {names : List Text}
    (allowed : refusal? settings entries names = none) (enforced : settings.enforceThresholds = true) :
    (count (names.map fun name => (entries name).length) : Int) ≤ settings.dangerThreshold := by
  rw [refusal?_of_resolved settings (resolved_of_refusal? allowed)] at allowed
  split at allowed
  · cases allowed
  · next harmless =>
      by_contra above
      exact harmless ⟨enforced, by omega⟩

/-- What a selection spends: as many units as there are combinations, which are announced. -/
theorem Selection.outcome_spends {text : Text} {entries : Text → List Text} {names : List Text}
    (allowed : refusal? settings entries names = none) (read : Text) :
    (UnitKind.wildcarded read names).Spends settings
      (outcome settings text entries names (units text names entries)) := by
  have announced := announces_warnings settings (count (names.map fun name => (entries name).length)) names.length
  have made : (units text names entries).length = count (names.map fun name => (entries name).length) :=
    length_units text names entries
  refine ⟨?_, ?_⟩
  · change settings.Announces (units text names entries).length _
    rw [made]
    exact announced
  · intro enforced
    have bounded := le_of_refusal?_eq_none allowed enforced
    refine ⟨bounded, ?_⟩
    intro message member begins
    -- A message of danger would name a number above the threshold, which has been refused.
    have named := announced.danger_only message member begins
    have above := announced.danger_iff.mp (named ▸ member)
    omega

theorem UnitKind.spends_of_valid {part : Text} {kind : UnitKind} (read : ofText? part = .ok kind)
    (valid : (kind.expand settings catalog).isValid = true) : kind.Spends settings (kind.expand settings catalog) := by
  cases kind with
  | plain text => exact rfl
  | bracketed text group =>
      simp only [expand] at valid ⊢
      cases made : group.units? settings with
      | error issue =>
          rw [made] at valid
          cases valid
      | ok units => exact Bracket.Group.length_le_of_units? made
  | wildcarded text names =>
      obtain ⟨referring, rfl, rfl⟩ := ofText?_eq_wildcarded_iff.mp read
      rw [expand_wildcarded settings catalog referring] at valid ⊢
      cases allowed : Selection.refusal? settings catalog.entries (Reference.names text) with
      | some issue =>
          rw [allowed] at valid
          cases valid
      | none => exact Selection.outcome_spends allowed text

theorem UnitKind.refused_of_exceeds (sound : settings.IsSound) {part : Text} {kind : UnitKind}
    (read : ofText? part = .ok kind) (exceeds : kind.Exceeds settings catalog) :
    ∃ issue names, kind.expand settings catalog = .refused part [issue] (some kind) names ∧ issue.kind = .overflow ∧
      issue.isWritable = Text.hasNumeral (kind.selections catalog) := by
  cases kind with
  | plain text => exact exceeds.elim
  | bracketed text group =>
      obtain ⟨_, rfl, _⟩ := ofText?_eq_bracketed_iff.mp read
      have many : settings.maxBracketOptions < group.options.length := exceeds
      have capped := sound.maxBracketOptions_pos
      have present : ¬ group.options.isEmpty = true := by
        rw [List.isEmpty_iff_length_eq_zero]
        omega
      have refused : group.units? settings =
          .error (.tooManyOptions group.options.length settings.maxBracketOptions) := by
        rw [Bracket.Group.units?, if_neg present, if_pos many]
      simp only [expand, refused]
      exact ⟨_, [], rfl, rfl, Text.hasNumeral_and_limit capped many⟩
  | wildcarded text names =>
      obtain ⟨referring, rfl, rfl⟩ := ofText?_eq_wildcarded_iff.mp read
      obtain ⟨resolved, enforced, above⟩ := exceeds
      rw [expand_wildcarded settings catalog referring,
        Selection.refusal?_of_resolved settings (Selection.unresolved_eq_nil.mpr resolved),
        if_pos ⟨enforced, above⟩]
      exact ⟨_, _, rfl, rfl, Text.hasNumeral_and_limit sound.dangerThreshold_pos above⟩

theorem UnitKind.overflows_of_exceeds (sound : settings.IsSound) {part : Text} {kind : UnitKind}
    (read : ofText? part = .ok kind) (exceeds : kind.Exceeds settings catalog) :
    (kind.expand settings catalog).Overflows := by
  obtain ⟨issue, names, refused, overflow, _⟩ := refused_of_exceeds sound read exceeds
  rw [refused]
  exact Outcome.refused_overflows part overflow _ names

/-! ### The parts of a prompt -/

variable {prompt : Text}

theorem IsPart.spends {outcome : Outcome UnitKind} (part : IsPart settings catalog prompt outcome)
    (valid : outcome.isValid = true) : ∃ unit, outcome.kind = some unit ∧ unit.Spends settings outcome := by
  obtain ⟨_, _, _, kind, read, rfl⟩ := part
  exact ⟨kind, kind.kind_expand, kind.spends_of_valid read valid⟩

theorem isValid_of_mem_steps (valid : (expand settings catalog prompt).isValid = true) {step : Step}
    (member : step ∈ (expand settings catalog prompt).steps) : step.outcome.isValid = true := by
  rcases expand_cases settings catalog prompt with
    ⟨issue, unread⟩ | ⟨unit, _, _, single⟩ | ⟨kinds, _, _, chain⟩
  · rw [unread] at member
    cases member
  · rw [single] at member
    cases member
  · rw [chain, Chain.expand_isValid_iff] at valid
    rw [chain, Chain.expand_steps] at member
    exact (Chain.stepIssues_eq_nil_iff settings catalog).mp valid step member

theorem length_units_of_barred (valid : (expand settings catalog prompt).isValid = true)
    (barred : Chain.bar ∈ prompt) :
    2 ≤ (expand settings catalog prompt).units.length ∧
      ((expand settings catalog prompt).units.length : Int) ≤ settings.maxPipelineSteps := by
  rcases expand_cases_of_parts settings catalog prompt with
    ⟨issue, unread⟩ | ⟨kind, unbarred, _⟩ | ⟨kinds, _, sound, read, _, chain⟩
  · rw [unread] at valid
    cases valid
  · exact absurd barred unbarred
  · rw [chain, Chain.expand_isValid_iff] at valid
    have lengths : kinds.length = (Chain.splitSteps prompt).length := by
      simpa using (congrArg List.length read).symm
    rw [chain, Chain.length_units_of_quiet settings catalog prompt valid, lengths]
    exact Chain.length_splitSteps_of_sound barred sound

theorem spends_of_unbarred (valid : (expand settings catalog prompt).isValid = true)
    (unbarred : Chain.bar ∉ prompt) :
    ∃ unit, (expand settings catalog prompt).kind = some (.single unit) ∧
      unit.Spends settings (expand settings catalog prompt).toOutcome := by
  rcases expand_cases_of_parts settings catalog prompt with
    ⟨issue, unread⟩ | ⟨kind, _, _, part, single⟩ | ⟨kinds, barred, _⟩
  · rw [unread] at valid
    cases valid
  · rw [single] at valid ⊢
    obtain ⟨unit, named, spends⟩ := part.spends valid
    refine ⟨unit, ?_, ?_⟩
    · change (kind.expand settings catalog).kind.map Kind.single = _
      rw [named]
      rfl
    · cases unit <;> exact spends
  · exact absurd barred unbarred

/-- A part beyond its limit refuses the prompt. -/
theorem isValid_of_exceeds (sound : settings.IsSound) {part : Text} (among : part ∈ Chain.parts prompt)
    {unit : UnitKind} (read : UnitKind.ofText? part = .ok unit) (exceeds : unit.Exceeds settings catalog) :
    (expand settings catalog prompt).isValid = false := by
  have overflows := unit.overflows_of_exceeds sound read exceeds
  rw [Bool.eq_false_iff]
  intro valid
  -- Another step may be what refuses a chain; a chain that is let pass has read and let pass each of its steps.
  rcases expand_cases settings catalog prompt with
    ⟨issue, unread⟩ | ⟨kind, unbarred, alone, single⟩ | ⟨kinds, barred, steps, chain⟩
  · rw [unread] at valid
    cases valid
  · rw [Chain.parts_of_unbarred unbarred, List.mem_singleton] at among
    rw [expand_of_unit settings catalog unbarred (among ▸ read)] at valid
    cases overflows.invalid.symm.trans valid
  · rw [Chain.parts_of_barred barred] at among
    obtain ⟨kind, member, rfl⟩ :=
      (UnitKind.exists_mem_of_read steps (unit = ·)).mpr ⟨part, among, unit, read, rfl⟩
    rw [chain] at valid
    have passed := (Chain.expand_isValid_iff_forall settings catalog prompt kinds).mp valid unit member
    rw [overflows.invalid] at passed
    cases passed

/-- A prompt without bars that is beyond its limit overflows if the number that is beyond it has a numeral, and cannot
be evaluated if not. -/
theorem evaluate_of_exceeds (sound : settings.IsSound) (unbarred : Chain.bar ∉ prompt) {unit : UnitKind}
    (read : UnitKind.ofText? prompt = .ok unit) (exceeds : unit.Exceeds settings catalog) :
    if Text.hasNumeral (unit.selections catalog) then
      ∃ whole, evaluate settings catalog prompt = .ok whole ∧ whole.toOutcome.Overflows
    else evaluate settings catalog prompt = .error .unwritable := by
  obtain ⟨issue, names, refused, overflow, counted⟩ := unit.refused_of_exceeds sound read exceeds
  have made : expand settings catalog prompt = .ofUnit (.refused prompt [issue] (some unit) names) := by
    rw [expand_of_unit settings catalog unbarred read, refused]
  have written : (expand settings catalog prompt).isWritable = Text.hasNumeral (unit.selections catalog) := by
    rw [made, ← counted]
    simp [Expansion.ofUnit, Outcome.withKind, Outcome.isWritable, Outcome.refused]
  split
  · next short =>
      refine ⟨_, (evaluate_eq_ok_iff settings catalog).mpr ⟨written.trans short, made⟩, ?_⟩
      exact Outcome.refused_overflows prompt overflow _ names
  · next long =>
      rw [evaluate_eq_error_iff, written]
      exact Bool.eq_false_iff.mpr long

end

/-- Spending is bounded and announced, over settings that were checked. If a prompt is evaluated to a valid whole, a
chain has at least two units and no more than it may have steps, and a prompt without bars and each step of a chain come
to no more than the limit for their kind lets pass, with the number announced if it is one of combinations. A part of
the prompt that is read as a unit beyond its limit leaves no valid whole. If it is the prompt itself, the limit is the
one thing diagnosed and there is no unit, unless the number that is beyond the limit has no numeral; then the prompt is
not evaluated. -/
theorem spending_bounded_and_announced_where_counted {room : Nat} {formula : Formula.Evaluator}
    {data : Value} {settings : Settings} (checked : Settings.read room formula data = .ok settings) (catalog : Catalog)
    (prompt : Text) :
    (∀ whole, evaluate settings catalog prompt = .ok whole → whole.isValid = true →
      (whole.isPipeline = true →
        2 ≤ whole.units.length ∧ (whole.units.length : Int) ≤ settings.maxPipelineSteps) ∧
      (whole.isPipeline = false →
        ∃ unit, whole.kind = some (.single unit) ∧ unit.Spends settings whole.toOutcome) ∧
      ∀ step ∈ whole.steps, ∃ unit, step.outcome.kind = some unit ∧ unit.Spends settings step.outcome) ∧
    ∀ part ∈ Chain.parts prompt, ∀ unit, UnitKind.ofText? part = .ok unit → unit.Exceeds settings catalog →
      (evaluate settings catalog prompt = .error .unwritable ∨
        ∃ whole, evaluate settings catalog prompt = .ok whole ∧ whole.isValid = false) ∧
      (Chain.bar ∉ prompt →
        if Text.hasNumeral (unit.selections catalog) then
          ∃ whole, evaluate settings catalog prompt = .ok whole ∧ whole.toOutcome.Overflows
        else evaluate settings catalog prompt = .error .unwritable) ∧
      (Text.hasNumeral (prompt.length + 1 : Nat) = true →
        (evaluate settings catalog prompt = .error .unwritable ↔ Outnumbers settings catalog prompt)) := by
  have sound := Settings.isSound_of_read checked
  constructor
  · intro whole evaluated valid
    obtain ⟨_, rfl⟩ := (evaluate_eq_ok_iff settings catalog).mp evaluated
    have shape := isPipeline_expand_iff settings catalog prompt
    refine ⟨fun chained => length_units_of_barred valid (shape.mp chained), fun single => ?_, ?_⟩
    · refine spends_of_unbarred valid fun barred => ?_
      rw [shape.mpr barred] at single
      cases single
    · exact fun step member => (isPart_of_mem_steps member).spends (isValid_of_mem_steps valid member)
  · intro part among unit read exceeds
    have invalid := isValid_of_exceeds sound among read exceeds
    refine ⟨?_, fun unbarred => ?_, fun short => evaluate_eq_error_iff_outnumbers short sound⟩
    · rw [evaluate_eq, Expansion.stated]
      split
      · exact Or.inr ⟨_, rfl, invalid⟩
      · exact Or.inl rfl
    · rw [Chain.parts_of_unbarred unbarred, List.mem_singleton] at among
      exact evaluate_of_exceeds sound unbarred (among ▸ read) exceeds

/-- Under an enforced danger threshold of two, two selections are let pass as a step, and three are refused. -/
theorem spending_of_two_and_three_selections :
    let data : Value := .map [(.text "warn_threshold".toList, .int 1), (.text "danger_threshold".toList, .int 2),
      (.text "max_bracket_options".toList, .int 2), (.text "enforce_thresholds".toList, .bool true)]
    let settings : Settings :=
      { maxBracketOptions := 2, warnThreshold := 1, dangerThreshold := 2, enforceThresholds := true }
    let catalog : Catalog :=
      [⟨"hero".toList, ["Ann".toList, "Bo".toList]⟩, ⟨"foe".toList, ["x".toList, "y".toList, "z".toList]⟩]
    Settings.read 900 Formula.evaluate data = .ok settings ∧
      (∃ chain, evaluate settings catalog "_hero_ waves|[red, blue] sky".toList = .ok chain ∧ chain.isValid = true ∧
        (2 ≤ chain.units.length ∧ (chain.units.length : Int) ≤ 15) ∧
        ∀ step ∈ chain.steps, ∃ unit, step.outcome.kind = some unit ∧ unit.Spends settings step.outcome) ∧
      ∃ alone, evaluate settings catalog "_foe_ waves".toList = .ok alone ∧ alone.toOutcome.Overflows := by
  intro data settings catalog
  have checked : Settings.read 900 Formula.evaluate data = .ok settings := by
    simp only [data, settings]
    cbv
  refine ⟨checked, ?_, ?_⟩
  · let prompt := "_hero_ waves|[red, blue] sky".toList
    have issues : (expand settings catalog prompt).issues = [] := by
      simp only [prompt, catalog, settings]
      cbv
    have warnings : (expand settings catalog prompt).warnings =
        [.atStep 1 (.many 2), .unusedVariants 1 2, .unusedVariants 2 2] := by
      simp only [prompt, catalog, settings]
      cbv
    have written : (expand settings catalog prompt).isWritable = true := by
      rw [Outcome.isWritable, issues, warnings]
      simp [Warning.isWritable, Text.hasNumeral_of_le_ten]
    have evaluated := (evaluate_eq_ok_iff settings catalog).mpr ⟨written, rfl⟩
    have valid : (expand settings catalog prompt).isValid = true := by
      simp only [prompt, catalog, settings]
      cbv
    have chained : (expand settings catalog prompt).isPipeline = true :=
      (isPipeline_expand_iff settings catalog _).mpr (by decide)
    obtain ⟨counted, _, steps⟩ :=
      (spending_bounded_and_announced_where_counted checked catalog prompt).1 _ evaluated valid
    exact ⟨_, evaluated, valid, counted chained, steps⟩
  · have unbarred : Chain.bar ∉ "_foe_ waves".toList := by decide
    have read : UnitKind.ofText? "_foe_ waves".toList = .ok (.wildcarded "_foe_ waves".toList ["foe".toList]) := by
      cbv
    have exceeds : (UnitKind.wildcarded "_foe_ waves".toList ["foe".toList]).Exceeds settings catalog := by
      simp only [UnitKind.Exceeds, settings, catalog]
      decide
    have among : "_foe_ waves".toList ∈ Chain.parts "_foe_ waves".toList := by
      rw [Chain.parts_of_unbarred unbarred]
      exact List.mem_singleton_self _
    have three : Text.hasNumeral ((UnitKind.wildcarded "_foe_ waves".toList ["foe".toList]).selections catalog) = true :=
      Text.hasNumeral_of_le_ten (by simp only [UnitKind.selections, catalog]; decide)
        (by simp only [UnitKind.selections, catalog]; decide)
    have overflows :=
      ((spending_bounded_and_announced_where_counted checked catalog _).2 _ among _ read exceeds).2.1 unbarred
    rwa [if_pos three] at overflows

/-- The references to 4301 numerals are beyond an enforced threshold, and no overflow is diagnosed. -/
theorem no_overflow_of_long_count :
    let data : Value := .map [(.text "enforce_thresholds".toList, .bool true)]
    let settings : Settings := { enforceThresholds := true }
    let prompt := numeralReferences 4301
    Settings.read 900 Formula.evaluate data = .ok settings ∧ Chain.bar ∉ prompt ∧
      (∃ unit, UnitKind.ofText? prompt = .ok unit ∧ unit.Exceeds settings (numeralCatalog 4301)) ∧
      ¬ ∃ whole, evaluate settings (numeralCatalog 4301) prompt = .ok whole ∧ whole.toOutcome.Overflows := by
  intro data settings prompt
  have several : 2 < 4301 := by decide
  refine ⟨?_, bar_not_mem_numeralReferences 4301, ⟨_, read_numeralReferences several, ?_⟩, ?_⟩
  · simp only [data, settings]
    cbv
  · refine ⟨resolved_numeralReferences 4301, rfl, ?_⟩
    rw [prod_numeralReferences]
    exact hundred_lt_ten_pow several
  · rintro ⟨whole, evaluated, _⟩
    have failed : evaluate settings (numeralCatalog 4301) prompt = .error .unwritable :=
      evaluate_numeralReferences (by decide)
    cases failed.symm.trans evaluated

end PromptTemplate
