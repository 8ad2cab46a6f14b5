import PromptTemplate.Expansion.Expand
import PromptTemplate.Proofs.Kind.Reading

set_option autoImplicit false

namespace PromptTemplate

theorem expand_of_unread {settings : Settings} {prompt : Text} {issue : Issue} (catalog : Catalog)
    (refused : Kind.ofText? settings.maxPipelineSteps prompt = .error issue) :
    expand settings catalog prompt = .unread prompt issue := by
  rw [expand, refused]

theorem expand_of_read {settings : Settings} {prompt : Text} {kind : Kind} (catalog : Catalog)
    (read : Kind.ofText? settings.maxPipelineSteps prompt = .ok kind) :
    expand settings catalog prompt = kind.expand settings catalog := by
  rw [expand, read]

theorem expand_of_unit (settings : Settings) {prompt : Text} {unit : UnitKind} (catalog : Catalog)
    (unbarred : Chain.bar ∉ prompt) (read : UnitKind.ofText? prompt = .ok unit) :
    expand settings catalog prompt = .ofUnit (unit.expand settings catalog) := by
  rw [expand, Kind.ofText?_of_unbarred _ unbarred, read]
  rfl

theorem expand_of_referring (settings : Settings) {prompt : Text} (catalog : Catalog)
    (unbarred : Chain.bar ∉ prompt) (referring : Reference.names prompt ≠ []) :
    expand settings catalog prompt =
      .ofUnit ((UnitKind.wildcarded prompt (Reference.names prompt)).expand settings catalog) :=
  expand_of_unit settings catalog unbarred (UnitKind.ofText?_eq_wildcarded_iff.mpr ⟨referring, rfl, rfl⟩)

theorem expand_of_chain {settings : Settings} {prompt : Text} {kinds : List UnitKind}
    (catalog : Catalog) (barred : Chain.bar ∈ prompt)
    (sound : Chain.fault? settings.maxPipelineSteps prompt = none)
    (read : (Chain.splitSteps prompt).map UnitKind.ofText? = kinds.map .ok) :
    expand settings catalog prompt = Chain.expand settings catalog prompt kinds := by
  rw [expand, Kind.ofText?_of_barred _ barred, sound, UnitKind.ofSteps?_eq_ok.mpr read]
  rfl

theorem expand_cases (settings : Settings) (catalog : Catalog) (prompt : Text) :
    (∃ issue, expand settings catalog prompt = .unread prompt issue) ∨
      (∃ unit, Chain.bar ∉ prompt ∧ UnitKind.ofText? prompt = .ok unit ∧
        expand settings catalog prompt = .ofUnit (unit.expand settings catalog)) ∨
      ∃ kinds, Chain.bar ∈ prompt ∧
        (Chain.splitSteps prompt).map UnitKind.ofText? = kinds.map .ok ∧
        expand settings catalog prompt = Chain.expand settings catalog prompt kinds := by
  cases reading : Kind.ofText? settings.maxPipelineSteps prompt with
  | error issue => exact Or.inl ⟨issue, expand_of_unread catalog reading⟩
  | ok kind =>
      rcases Kind.cases_of_ofText? reading with
        ⟨unit, unbarred, read, rfl⟩ | ⟨kinds, barred, sound, read, rfl⟩
      · exact Or.inr (Or.inl ⟨unit, unbarred, read, expand_of_unit settings catalog unbarred read⟩)
      · exact Or.inr (Or.inr ⟨kinds, barred, read, expand_of_chain catalog barred sound read⟩)

section

variable (settings : Settings) (catalog : Catalog) (prompt : Text)

@[simp] theorem prompt_expand : (expand settings catalog prompt).prompt = prompt := by
  rcases expand_cases settings catalog prompt with
    ⟨issue, unread⟩ | ⟨unit, unbarred, read, single⟩ | ⟨kinds, barred, read, chain⟩
  · rw [unread]
    rfl
  · rw [single]
    exact (unit.expand_prompt settings catalog).trans (UnitKind.text_of_ofText? read)
  · rw [chain, Chain.expand_prompt]

theorem isPipeline_expand_iff :
    (expand settings catalog prompt).isPipeline = true ↔ Chain.bar ∈ prompt := by
  rcases expand_cases settings catalog prompt with
    ⟨issue, unread⟩ | ⟨unit, unbarred, read, single⟩ | ⟨kinds, barred, read, chain⟩
  · rw [unread]
    simp [Expansion.unread]
  · rw [single]
    simp [Expansion.ofUnit, unbarred]
  · rw [chain]
    simp [barred]

theorem exists_kind_of_mem_steps {step : Step}
    (member : step ∈ (expand settings catalog prompt).steps) :
    ∃ kind : UnitKind, step.outcome = kind.expand settings catalog := by
  rcases expand_cases settings catalog prompt with
    ⟨issue, unread⟩ | ⟨unit, unbarred, read, single⟩ | ⟨kinds, barred, read, chain⟩
  · rw [unread] at member
    cases member
  · rw [single] at member
    cases member
  · rw [chain, Chain.expand_steps, Chain.expandSteps_eq_map] at member
    obtain ⟨entry, _, rfl⟩ := List.mem_map.mp member
    exact ⟨entry.1, rfl⟩

end

end PromptTemplate
