import PromptTemplate.Proofs.Expansion.Cases

set_option autoImplicit false

namespace PromptTemplate

namespace Outcome

variable {κ μ : Type}

/-- Units, counts and diagnostics agree. -/
structure Consistent (outcome : Outcome κ) : Prop where
  isValid_iff : outcome.isValid = true ↔ outcome.diagnostics = []
  counted : outcome.isValid = true →
    outcome.totalCount = outcome.units.length ∧ 1 ≤ outcome.totalCount
  empty : outcome.isValid = false →
    outcome.units = [] ∧ outcome.totalCount = 0 ∧ outcome.previewCount = 0

theorem refused_consistent (prompt : Text) {issues : List Issue} (reasons : issues ≠ [])
    (kind : Option κ) (names : List Text) : (refused prompt issues kind names).Consistent where
  isValid_iff := by simpa [refused, diagnostics] using reasons
  counted := by simp [refused]
  empty := by simp [refused]

theorem consistent_of_counted {outcome : Outcome κ} (valid : outcome.isValid = true)
    (quiet : outcome.issues = []) (nonempty : outcome.units ≠ [])
    (counted : outcome.totalCount = outcome.units.length) : outcome.Consistent where
  isValid_iff := by simp [valid, diagnostics, quiet]
  counted := by
    intro _
    have present := List.length_pos_iff.mpr nonempty
    exact ⟨counted, by omega⟩
  empty := by simp [valid]

theorem accepted_consistent (prompt : Text) {units : List Text} (nonempty : units ≠ [])
    (previewCount : Int) (kind : Option κ) (warnings : List Warning) (names : List Text) :
    (accepted prompt units previewCount kind warnings names).Consistent :=
  consistent_of_counted rfl rfl nonempty rfl

theorem Consistent.withKind {outcome : Outcome κ} (consistent : outcome.Consistent)
    (kind : Option μ) : (outcome.withKind kind).Consistent :=
  ⟨consistent.isValid_iff, consistent.counted, consistent.empty⟩

theorem Consistent.units_ne_nil {outcome : Outcome κ} (consistent : outcome.Consistent)
    (quiet : outcome.issues = []) : outcome.units ≠ [] := by
  have valid := consistent.isValid_iff.mpr (by simp [diagnostics, quiet])
  have counted := consistent.counted valid
  exact List.length_pos_iff.mp (by omega)

theorem Consistent.units_eq_nil_iff {outcome : Outcome κ} (consistent : outcome.Consistent) :
    outcome.units = [] ↔ outcome.isValid = false := by
  refine ⟨fun none => ?_, fun invalid => (consistent.empty invalid).1⟩
  rw [Bool.eq_false_iff]
  intro valid
  have counted := consistent.counted valid
  rw [none, List.length_nil] at counted
  omega

end Outcome

theorem Selection.combine_consistent (settings : Settings) (text : Text)
    (entries : Text → List Text) : (combine settings text entries).Consistent := by
  simp only [combine]
  split
  · exact Outcome.accepted_consistent text (List.cons_ne_nil text []) 1 none [] []
  · split
    · exact Outcome.refused_consistent text (List.cons_ne_nil _ []) none _
    · rename_i allowed
      apply Outcome.consistent_of_counted rfl rfl
      · exact units_ne_nil (unresolved_eq_nil.mp (resolved_of_refusal? allowed))
      · exact (length_units text (Reference.names text) entries).symm

theorem UnitKind.expand_consistent (settings : Settings) (catalog : Catalog) (kind : UnitKind) :
    (kind.expand settings catalog).Consistent := by
  cases kind with
  | plain text => exact Outcome.accepted_consistent text (List.cons_ne_nil text []) 1 _ [] []
  | bracketed text group =>
      simp only [UnitKind.expand]
      split
      · exact Outcome.refused_consistent text (List.cons_ne_nil _ []) _ []
      · rename_i units made
        exact Outcome.accepted_consistent text (Bracket.Group.units?_ne_nil made) _ _ [] []
  | wildcarded text names =>
      simp only [UnitKind.expand]
      split
      · exact (Selection.combine_consistent settings text _).withKind _
      · exact Outcome.refused_consistent text (List.cons_ne_nil _ []) _ names

namespace Chain

variable (settings : Settings) (catalog : Catalog)

theorem step_consistent {kinds : List UnitKind} {position : Nat} {step : Step}
    (member : step ∈ expandSteps settings catalog position kinds) : step.outcome.Consistent := by
  rw [expandSteps_eq_map] at member
  obtain ⟨entry, _, rfl⟩ := List.mem_map.mp member
  exact entry.1.expand_consistent settings catalog

/-- Nothing is said against a chain if and only if every step is valid. -/
theorem stepIssues_eq_nil_iff {kinds : List UnitKind} {position : Nat} :
    (expandSteps settings catalog position kinds).flatMap stepIssues = [] ↔
      ∀ step ∈ expandSteps settings catalog position kinds, step.outcome.isValid = true := by
  rw [List.flatMap_eq_nil_iff]
  constructor
  · intro quiet step member
    rw [(step_consistent settings catalog member).isValid_iff]
    simpa [stepIssues, Outcome.diagnostics] using quiet step member
  · intro valid step member
    have silent := (step_consistent settings catalog member).isValid_iff.mp (valid step member)
    simpa [stepIssues, Outcome.diagnostics] using silent

/-- A chain is valid if and only if every step is. -/
theorem expand_isValid_iff_forall (text : Text) (kinds : List UnitKind) :
    (expand settings catalog text kinds).isValid = true ↔
      ∀ kind ∈ kinds, (kind.expand settings catalog).isValid = true := by
  have regrouped : (∀ step ∈ expandSteps settings catalog 1 kinds, step.outcome.isValid = true) ↔
      ∀ outcome ∈ (expandSteps settings catalog 1 kinds).map Step.outcome, outcome.isValid = true := by
    rw [List.forall_mem_map]
  rw [expand_isValid_iff, stepIssues_eq_nil_iff, regrouped, map_outcome_expandSteps,
    List.forall_mem_map]

theorem map_some_units_of_quiet (text : Text) {kinds : List UnitKind}
    (quiet : (expandSteps settings catalog 1 kinds).flatMap stepIssues = []) :
    (expand settings catalog text kinds).units.map some =
      (expandSteps settings catalog 1 kinds).map Step.firstVariant? := by
  rw [(expand_of_quiet settings catalog text kinds quiet).2.1]
  apply Step.map_some_filterMap_firstVariant?
  intro step member
  apply (step_consistent settings catalog member).units_ne_nil
  simpa [stepIssues] using List.flatMap_eq_nil_iff.mp quiet step member

theorem length_units_of_quiet (text : Text) {kinds : List UnitKind}
    (quiet : (expandSteps settings catalog 1 kinds).flatMap stepIssues = []) :
    (expand settings catalog text kinds).units.length = kinds.length := by
  have lengths := congrArg List.length (map_some_units_of_quiet settings catalog text quiet)
  simpa [length_expandSteps] using lengths

theorem expand_consistent (text : Text) {kinds : List UnitKind} (nonempty : kinds ≠ []) :
    (expand settings catalog text kinds).Consistent := by
  by_cases quiet : (expandSteps settings catalog 1 kinds).flatMap stepIssues = []
  · obtain ⟨valid, _, counted, _⟩ := expand_of_quiet settings catalog text kinds quiet
    have width := length_units_of_quiet settings catalog text quiet
    have present := List.length_pos_iff.mpr nonempty
    apply Outcome.consistent_of_counted valid
    · rw [expand_issues, quiet]
    · exact List.length_pos_iff.mp (by omega)
    · rw [counted, width, length_expandSteps]
  · obtain ⟨invalid, empty⟩ := expand_of_issues settings catalog text kinds quiet
    refine ⟨?_, ?_, fun _ => empty⟩
    · simpa [invalid, Outcome.diagnostics] using quiet
    · simp [invalid]

end Chain

theorem Chain.kinds_ne_nil_of_read {prompt : Text} {kinds : List UnitKind}
    (read : (splitSteps prompt).map UnitKind.ofText? = kinds.map .ok) : kinds ≠ [] := by
  rintro rfl
  exact splitSteps_ne_nil prompt (List.map_eq_nil_iff.mp read)

theorem expand_consistent (settings : Settings) (catalog : Catalog) (prompt : Text) :
    (expand settings catalog prompt).Consistent := by
  rcases expand_cases settings catalog prompt with
    ⟨issue, unread⟩ | ⟨unit, unbarred, read, single⟩ | ⟨kinds, barred, read, chain⟩
  · rw [unread]
    exact Outcome.refused_consistent prompt (List.cons_ne_nil issue []) none []
  · rw [single]
    exact (unit.expand_consistent settings catalog).withKind _
  · rw [chain]
    exact Chain.expand_consistent settings catalog prompt (Chain.kinds_ne_nil_of_read read)

end PromptTemplate
