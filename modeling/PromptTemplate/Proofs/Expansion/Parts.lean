import PromptTemplate.Proofs.Bracket.Vacancy
import PromptTemplate.Proofs.Expansion.Consistency
import PromptTemplate.Proofs.Kind.Reading

set_option autoImplicit false

namespace PromptTemplate

namespace Chain

/-- The texts that are read as units: the steps of a chain, or the whole text. -/
def parts (text : Text) : List Text :=
  if text.contains bar then splitSteps text else [text]

theorem parts_of_unbarred {text : Text} (unbarred : bar ∉ text) : parts text = [text] := by
  simp [parts, unbarred]

theorem parts_of_barred {text : Text} (barred : bar ∈ text) : parts text = splitSteps text := by
  simp [parts, barred]

end Chain

namespace UnitKind

theorem ofText?_eq_bracketed_iff {text read : Text} {group : Bracket.Group} :
    ofText? text = .ok (.bracketed read group) ↔
      Reference.names text = [] ∧ read = text ∧ Bracket.group? text = .ok group := by
  cases names : Reference.names text with
  | cons name others => simp [ofText?, names]
  | nil =>
      simp only [ofText?, names, true_and]
      cases sound : Bracket.fault? text with
      | some fault => simp [Bracket.group?, sound]
      | none =>
          by_cases opened : '[' ∈ text
          · cases grouped : Bracket.group? text <;> simp [opened, Except.map, eq_comm]
          · simp [opened, Bracket.group?, sound, Bracket.cut?_of_not_mem opened]

theorem exists_mem_of_read {texts : List Text} {kinds : List UnitKind}
    (read : texts.map ofText? = kinds.map .ok) (holds : UnitKind → Prop) :
    (∃ kind ∈ kinds, holds kind) ↔ ∃ text ∈ texts, ∃ unit, ofText? text = .ok unit ∧ holds unit := by
  constructor
  · rintro ⟨kind, member, held⟩
    obtain ⟨text, among, unit⟩ := List.mem_map.mp (read ▸ List.mem_map_of_mem member)
    exact ⟨text, among, kind, unit, held⟩
  · rintro ⟨text, among, unit, alone, held⟩
    have member := List.mem_map_of_mem (f := ofText?) among
    rw [read, alone] at member
    obtain ⟨kind, found, same⟩ := List.mem_map.mp member
    obtain rfl := Except.ok.inj same
    exact ⟨kind, found, held⟩

end UnitKind

section

variable (settings : Settings) (catalog : Catalog) (prompt : Text)

/-- What a part of a prompt comes to, when the steps of the prompt have passed their check and the part has been
read. -/
def IsPart (outcome : Outcome UnitKind) : Prop :=
  Chain.fault? settings.maxPipelineSteps prompt = none ∧
    ∃ part ∈ Chain.parts prompt, ∃ kind, UnitKind.ofText? part = .ok kind ∧ outcome = kind.expand settings catalog

variable {settings catalog prompt}

theorem isPart_of_unit {kind : UnitKind} (unbarred : Chain.bar ∉ prompt)
    (read : UnitKind.ofText? prompt = .ok kind) : IsPart settings catalog prompt (kind.expand settings catalog) := by
  have sound : Chain.fault? settings.maxPipelineSteps prompt = none := by simp [Chain.fault?, unbarred]
  refine ⟨sound, prompt, ?_, kind, read, rfl⟩
  rw [Chain.parts_of_unbarred unbarred]
  exact List.mem_singleton_self prompt

theorem isPart_of_chain {kinds : List UnitKind} {kind : UnitKind} (barred : Chain.bar ∈ prompt)
    (sound : Chain.fault? settings.maxPipelineSteps prompt = none)
    (read : (Chain.splitSteps prompt).map UnitKind.ofText? = kinds.map .ok) (member : kind ∈ kinds) :
    IsPart settings catalog prompt (kind.expand settings catalog) := by
  obtain ⟨part, among, _, alone, rfl⟩ := (UnitKind.exists_mem_of_read read (kind = ·)).mp ⟨kind, member, rfl⟩
  refine ⟨sound, part, ?_, kind, alone, rfl⟩
  rwa [Chain.parts_of_barred barred]

variable (settings catalog prompt) in
/-- The parts of an expansion: none if the prompt cannot be read, the whole of one unit, or one for each step of a
chain. -/
theorem expand_cases_of_parts :
    (∃ issue, expand settings catalog prompt = .unread prompt issue) ∨
      (∃ kind : UnitKind, Chain.bar ∉ prompt ∧ UnitKind.ofText? prompt = .ok kind ∧
        IsPart settings catalog prompt (kind.expand settings catalog) ∧
        expand settings catalog prompt = .ofUnit (kind.expand settings catalog)) ∨
      ∃ kinds, Chain.bar ∈ prompt ∧ Chain.fault? settings.maxPipelineSteps prompt = none ∧
        (Chain.splitSteps prompt).map UnitKind.ofText? = kinds.map .ok ∧
        (∀ kind ∈ kinds, IsPart settings catalog prompt (kind.expand settings catalog)) ∧
        expand settings catalog prompt = Chain.expand settings catalog prompt kinds := by
  cases reading : Kind.ofText? settings.maxPipelineSteps prompt with
  | error issue => exact Or.inl ⟨issue, expand_of_unread catalog reading⟩
  | ok kind =>
      rcases Kind.cases_of_ofText? reading with
        ⟨unit, unbarred, read, rfl⟩ | ⟨kinds, barred, sound, read, rfl⟩
      · exact Or.inr (Or.inl ⟨unit, unbarred, read, isPart_of_unit unbarred read,
          expand_of_unit settings catalog unbarred read⟩)
      · exact Or.inr (Or.inr ⟨kinds, barred, sound, read,
          fun _ member => isPart_of_chain barred sound read member,
          expand_of_chain catalog barred sound read⟩)

theorem exists_kind_of_mem_expandSteps {kinds : List UnitKind} {position : Nat} {step : Step}
    (member : step ∈ Chain.expandSteps settings catalog position kinds) :
    ∃ kind ∈ kinds, step.outcome = kind.expand settings catalog := by
  rw [Chain.expandSteps_eq_map] at member
  obtain ⟨entry, among, rfl⟩ := List.mem_map.mp member
  exact ⟨entry.1, List.fst_mem_of_mem_zipIdx among, rfl⟩

theorem isPart_of_mem_steps {step : Step} (member : step ∈ (expand settings catalog prompt).steps) :
    IsPart settings catalog prompt step.outcome := by
  rcases expand_cases_of_parts settings catalog prompt with
    ⟨issue, unread⟩ | ⟨kind, _, _, _, single⟩ | ⟨kinds, _, _, _, each, chain⟩
  · rw [unread] at member
    cases member
  · rw [single] at member
    cases member
  · rw [chain, Chain.expand_steps] at member
    obtain ⟨kind, among, same⟩ := exists_kind_of_mem_expandSteps member
    exact same ▸ each kind among

theorem exists_part_of_mem_units {unit : Text} (member : unit ∈ (expand settings catalog prompt).units) :
    ∃ outcome, IsPart settings catalog prompt outcome ∧ unit ∈ outcome.units := by
  rcases expand_cases_of_parts settings catalog prompt with
    ⟨issue, unread⟩ | ⟨kind, _, _, whole, single⟩ | ⟨kinds, _, _, _, each, chain⟩
  · rw [unread] at member
    cases member
  · rw [single] at member
    exact ⟨_, whole, member⟩
  · rw [chain] at member
    by_cases quiet : (Chain.expandSteps settings catalog 1 kinds).flatMap Chain.stepIssues = []
    · rw [(Chain.expand_of_quiet settings catalog prompt kinds quiet).2.1] at member
      obtain ⟨step, among, first⟩ := List.mem_filterMap.mp member
      obtain ⟨kind, inside, same⟩ := exists_kind_of_mem_expandSteps among
      exact ⟨step.outcome, same ▸ each kind inside, List.mem_of_mem_head? first⟩
    · rw [(Chain.expand_of_issues settings catalog prompt kinds quiet).2.1] at member
      cases member

end

end PromptTemplate
