import PromptTemplate.Proofs.Catalog.Lookup
import PromptTemplate.Proofs.Expansion.Limits
import PromptTemplate.Proofs.Expansion.Parts
import PromptTemplate.Proofs.Expansion.Wildcards
import PromptTemplate.Proofs.Reference.Staging

set_option autoImplicit false

namespace PromptTemplate

/-- A catalog whose entries have no underscore. -/
def Catalog.IsBare (catalog : Catalog) : Prop :=
  ∀ definition ∈ catalog, ∀ entry ∈ definition.entries, '_' ∉ entry

theorem Selection.Selects.isBare {catalog : Catalog} {names : List Text} {picks : Text → Option Text}
    (selects : Selects catalog.entries names picks) (bare : catalog.IsBare) : Reference.IsBare picks := by
  intro name value picked
  obtain ⟨definition, among, _, present⟩ :=
    Catalog.exists_definition_of_mem_entries (selects.mem_entries name value picked)
  exact bare definition among value present

section

variable {settings : Settings} {catalog : Catalog} {prompt : Text}

theorem expand_of_kind_single {kind : UnitKind} (single : (expand settings catalog prompt).kind = some (.single kind)) :
    Chain.bar ∉ prompt ∧ UnitKind.ofText? prompt = .ok kind ∧
      expand settings catalog prompt = .ofUnit (kind.expand settings catalog) := by
  rcases expand_cases settings catalog prompt with
    ⟨issue, unread⟩ | ⟨other, unbarred, read, made⟩ | ⟨kinds, _, _, chain⟩
  · rw [unread] at single
    cases single
  · rw [made] at single
    change (other.expand settings catalog).kind.map Kind.single = _ at single
    rw [UnitKind.kind_expand] at single
    cases single
    exact ⟨unbarred, read, made⟩
  · rw [chain, Chain.kind_expand] at single
    cases single

theorem UnitKind.names_of_mem_expand (bare : catalog.IsBare) {part text unit : Text} {names : List Text}
    (read : ofText? part = .ok (.wildcarded text names))
    (member : unit ∈ ((wildcarded text names).expand settings catalog).units) : Reference.names unit = [] := by
  obtain ⟨referring, rfl, rfl⟩ := ofText?_eq_wildcarded_iff.mp read
  obtain ⟨picks, selects, rfl⟩ := exists_selects_of_mem_expand referring member
  rw [Reference.names_trim]
  exact Reference.names_substitute_eq_nil (selects.isBare bare) fun name named => (selects.isSome_iff name).mpr named

end

/-- Staged substitution completes a text. Values without underscores leave the names that they are not picked for,
in their order, and a second substitution may be made together with the first. So if the entries of a catalog have no
underscore, no reference is left in a unit of a wildcarded prompt or of a wildcarded step. -/
theorem staged_substitution_completes :
    (∀ (text : Text) (picks : Text → Option Text), Reference.IsBare picks →
      Reference.names (Reference.substitute picks text) =
          (Reference.names text).filter (fun name => (picks name).isNone) ∧
        ∀ later : Text → Option Text, Reference.substitute later (Reference.substitute picks text) =
          Reference.substitute (fun name => (picks name).or (later name)) text) ∧
    ∀ (settings : Settings) (catalog : Catalog) (prompt : Text), catalog.IsBare →
      let whole := expand settings catalog prompt
      (∀ text names, whole.kind = some (.single (.wildcarded text names)) →
        ∀ unit ∈ whole.units, Reference.names unit = []) ∧
      ∀ step ∈ whole.steps, ∀ text names, step.outcome.kind = some (.wildcarded text names) →
        ∀ unit ∈ step.outcome.units, Reference.names unit = [] := by
  refine ⟨fun text picks bare => ⟨Reference.names_substitute bare text, ?_⟩, ?_⟩
  · exact fun later => Reference.substitute_substitute bare later text
  · intro settings catalog prompt bare whole
    refine ⟨?_, ?_⟩
    · intro text names single unit member
      obtain ⟨_, read, made⟩ := expand_of_kind_single single
      rw [show whole = _ from made] at member
      exact UnitKind.names_of_mem_expand bare read member
    · intro step among text names wildcarded unit member
      obtain ⟨_, part, _, kind, read, same⟩ := isPart_of_mem_steps among
      rw [same] at member wildcarded
      rw [UnitKind.kind_expand] at wildcarded
      cases wildcarded
      exact UnitKind.names_of_mem_expand bare read member

/-- One of two names is written first and the other behind it; with entries for both of them no reference is left. -/
theorem staged_substitution_of_two_names :
    let catalog : Catalog := [⟨"a".toList, ["x".toList, "w".toList]⟩, ⟨"b".toList, ["y z".toList]⟩]
    let first : Text → Option Text := fun name => if name = "a".toList then some "x".toList else none
    let second : Text → Option Text := fun name => if name = "b".toList then some "_a_".toList else none
    let prompt := "k_a_s _b_".toList
    Reference.IsBare first ∧ catalog.IsBare ∧
      Reference.names (Reference.substitute first prompt) = ["b".toList] ∧
      Reference.substitute second (Reference.substitute first prompt) = "kxs _a_".toList ∧
      (expand {} catalog prompt).units = ["kxs y z".toList, "kws y z".toList] ∧
      ∀ unit ∈ (expand {} catalog prompt).units, Reference.names unit = [] := by
  intro catalog first second prompt
  have bare : Reference.IsBare first := by
    intro name value picked
    simp only [first] at picked
    split at picked
    · cases picked
      decide
    · cases picked
  have plain : catalog.IsBare := by
    unfold Catalog.IsBare
    decide
  obtain ⟨texts, expansions⟩ := staged_substitution_completes
  obtain ⟨left, staged⟩ := texts prompt first bare
  have named : Reference.names prompt = ["a".toList, "b".toList] := by
    simp only [prompt]
    cbv
  have read : (expand {} catalog prompt).kind = some (.single (.wildcarded prompt ["a".toList, "b".toList])) := by
    simp only [catalog, prompt]
    cbv
  refine ⟨bare, plain, ?_, ?_, ?_, (expansions {} catalog prompt plain).1 _ _ read⟩
  · rw [left, named]
    decide
  · rw [staged]
    simp only [first, second, prompt]
    cbv
  · simp only [catalog, prompt]
    cbv

end PromptTemplate
