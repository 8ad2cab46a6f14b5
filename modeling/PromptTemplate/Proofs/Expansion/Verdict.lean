import Mathlib
import PromptTemplate.CommandLine.Run
import PromptTemplate.Proofs.Expansion.Parts

set_option autoImplicit false

namespace PromptTemplate

/-- A bracket group that offers nothing to choose from. -/
def UnitKind.HasNoOption : UnitKind → Prop
  | .bracketed _ group => group.options = []
  | .plain _ | .wildcarded _ _ => False

namespace UnitKind

/-- A text is read as a group without options if and only if it refers to no name and its brackets are
vacant. -/
theorem exists_unit_without_option_iff {text : Text} :
    (∃ unit, ofText? text = .ok unit ∧ unit.HasNoOption) ↔
      Reference.names text = [] ∧ Bracket.IsVacant text := by
  rw [← Bracket.exists_group_without_options_iff]
  constructor
  · rintro ⟨unit, read, empty⟩
    cases unit with
    | plain text => cases empty
    | wildcarded text names => cases empty
    | bracketed written group =>
        obtain ⟨names, _, grouped⟩ := ofText?_eq_bracketed_iff.mp read
        exact ⟨names, group, grouped, empty⟩
  · rintro ⟨names, group, grouped, empty⟩
    exact ⟨.bracketed text group, ofText?_eq_bracketed_iff.mpr ⟨names, rfl, grouped⟩, empty⟩

end UnitKind

section

variable (settings : Settings) (catalog : Catalog)

/-- What refuses a combination is never the form of the text. -/
theorem Selection.kind_of_refusal? {entries : Text → List Text} {names : List Text} {issue : Issue}
    (refused : refusal? settings entries names = some issue) : issue.kind ≠ .malformed := by
  simp only [refusal?] at refused
  split at refused
  · cases refused
    simp [Issue.kind]
  · split at refused
    · cases refused
      simp [Issue.kind]
    · cases refused

theorem Selection.kind_of_mem_combine {text : Text} {entries : Text → List Text} {issue : Issue}
    (member : issue ∈ (combine settings text entries).issues) : issue.kind ≠ .malformed := by
  simp only [combine] at member
  split at member
  · cases member
  · split at member
    · next refused =>
        obtain rfl := List.mem_singleton.mp member
        exact kind_of_refusal? settings refused
    · cases member

/-- A group is refused as malformed if it has no option; too many options are another matter. -/
theorem Bracket.Group.malformed_of_refused {group : Group} {issue : Issue}
    (refused : group.units? settings = .error issue) :
    issue.kind = .malformed ↔ group.options = [] ∧ issue = .noUsableOption := by
  simp only [units?] at refused
  split at refused
  · next empty =>
      cases refused
      simpa [Issue.kind] using empty
  · split at refused
    · cases refused
      simp [Issue.kind]
    · cases refused

theorem UnitKind.malformed_iff {kind : UnitKind} {issue : Issue} :
    issue ∈ (kind.expand settings catalog).issues ∧ issue.kind = .malformed ↔
      kind.HasNoOption ∧ issue = .noUsableOption := by
  cases kind with
  | plain text => simp [expand, Outcome.accepted, HasNoOption]
  | bracketed text group =>
      simp only [expand, HasNoOption]
      cases made : group.units? settings with
      | ok units =>
          have present := (Bracket.Group.units?_eq_ok_iff.mp made).1
          simp [Outcome.accepted, present]
      | error reason =>
          have malformed := Bracket.Group.malformed_of_refused settings made
          simp only [Outcome.refused, List.mem_singleton]
          constructor
          · rintro ⟨rfl, kind⟩
            exact malformed.mp kind
          · rintro ⟨empty, rfl⟩
            have vacant := Bracket.Group.units?_of_no_option settings empty
            obtain rfl := Except.error.inj (made.symm.trans vacant)
            exact ⟨rfl, rfl⟩
  | wildcarded text names =>
      simp only [expand, HasNoOption, false_and, iff_false, not_and]
      split
      · exact Selection.kind_of_mem_combine settings
      · intro member
        obtain rfl := List.mem_singleton.mp member
        simp [Issue.kind]

theorem Chain.malformed_iff {text : Text} {kinds : List UnitKind} {issue : Issue} :
    issue ∈ (expand settings catalog text kinds).issues ∧ issue.kind = .malformed ↔
      ∃ entry ∈ kinds.zipIdx 1, entry.1.HasNoOption ∧ issue = .atStep entry.2 .noUsableOption := by
  rw [expand_issues, expandSteps_eq_map, List.flatMap_map]
  simp only [List.mem_flatMap, stepIssues, List.mem_map]
  constructor
  · rintro ⟨⟨entry, among, inner, member, rfl⟩, kind⟩
    obtain ⟨empty, rfl⟩ := (UnitKind.malformed_iff settings catalog).mp ⟨member, kind⟩
    exact ⟨entry, among, empty, rfl⟩
  · rintro ⟨entry, among, empty, rfl⟩
    obtain ⟨member, kind⟩ := (UnitKind.malformed_iff settings catalog).mpr ⟨empty, rfl⟩
    exact ⟨⟨entry, among, _, member, rfl⟩, kind⟩

end

namespace Kind

theorem malformed_iff (settings : Settings) (catalog : Catalog) {maxSteps : Int} {text : Text} {kind : Kind}
    (read : ofText? maxSteps text = .ok kind) :
    ((∃ issue ∈ (kind.expand settings catalog).issues, issue.kind = .malformed) ↔
      ∃ part ∈ Chain.parts text, Reference.names part = [] ∧ Bracket.IsVacant part) ∧
    ∀ issue ∈ (kind.expand settings catalog).issues, issue.kind = .malformed →
      issue = .noUsableOption ∨ ∃ index, issue = .atStep index .noUsableOption := by
  rcases cases_of_ofText? read with ⟨unit, unbarred, alone, rfl⟩ | ⟨kinds, barred, _, steps, rfl⟩
  · have parts := Chain.parts_of_unbarred unbarred
    have issues : (Kind.expand settings catalog (.single unit)).issues = (unit.expand settings catalog).issues := rfl
    rw [parts, issues]
    constructor
    · simp only [List.mem_singleton, exists_eq_left, UnitKind.malformed_iff, exists_eq_right,
        ← UnitKind.exists_unit_without_option_iff, alone, Except.ok.injEq, exists_eq_left']
    · intro issue member kind
      exact Or.inl ((UnitKind.malformed_iff settings catalog).mp ⟨member, kind⟩).2
  · have parts := Chain.parts_of_barred barred
    rw [parts, expand]
    constructor
    · simp only [Chain.malformed_iff, ← UnitKind.exists_unit_without_option_iff]
      rw [← UnitKind.exists_mem_of_read steps]
      constructor
      · rintro ⟨_, entry, among, empty, _⟩
        exact ⟨entry.1, List.fst_mem_of_mem_zipIdx among, empty⟩
      · rintro ⟨kind, member, empty⟩
        rw [← List.zipIdx_map_fst 1 kinds] at member
        obtain ⟨entry, among, rfl⟩ := List.mem_map.mp member
        exact ⟨_, entry, among, empty, rfl⟩
    · intro issue member kind
      obtain ⟨entry, _, _, said⟩ := (Chain.malformed_iff settings catalog).mp ⟨member, kind⟩
      exact Or.inr ⟨entry.2, said⟩

end Kind

end PromptTemplate
