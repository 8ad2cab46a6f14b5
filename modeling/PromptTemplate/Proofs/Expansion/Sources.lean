import Mathlib
import PromptTemplate.Expansion.Expand
import PromptTemplate.Proofs.Catalog.Lookup
import PromptTemplate.Proofs.Kind.Reading

set_option autoImplicit false

namespace PromptTemplate

section

variable (settings : Settings) (catalog : Catalog)

theorem ofUnit_expandUnit {text : Text} (unbarred : Chain.bar ∉ text) :
    .ofUnit (expandUnit settings catalog text) = expand settings catalog text := by
  have absent : text.contains Chain.bar = false := by simpa using unbarred
  rw [expand, Kind.ofText?_of_unbarred _ unbarred, expandUnit]
  cases UnitKind.ofText? text with
  | error fault =>
      simp only [Expansion.unread, absent]
      rfl
  | ok unit => rfl

theorem expandChain_eq_expand (text : Text) :
    expandChain settings catalog text = expand settings catalog text := by
  rw [expandChain]
  split
  · next present =>
      rw [expand]
      cases Kind.ofText? settings.maxPipelineSteps text with
      | error issue => simp only [Expansion.unread, present]
      | ok kind => rfl
  · next absent => exact ofUnit_expandUnit settings catalog (by simpa using absent)

end

/-- Definitions in a row, in a list or in a tuple. -/
inductive IsRowOf (definitions : List Definition) : Value → Prop where
  | list : IsRowOf definitions (.list (definitions.map .definition))
  | tuple : IsRowOf definitions (.tuple (definitions.map .definition))

namespace IsRowOf

variable {definitions : List Definition} {source : Value} (row : IsRowOf definitions source)

include row

theorem catalog_ofValue? : Catalog.ofValue? source = .ok (Catalog.distinct definitions) := by
  cases row <;> simp [Catalog.ofValue?, Value.items?, Except.map]

theorem holds : UncheckedCatalog.Holds source definitions := by
  have contained : UncheckedCatalog.contents? source = .ok (definitions.map .definition) := by
    cases row <;> cases definitions <;> rfl
  exact .row (by cases row <;> simp) contained

theorem unchecked_ofValue? :
    UncheckedCatalog.ofValue? source = .ok { catalog := Catalog.distinct definitions } :=
  row.holds.ofValue?_eq

end IsRowOf

/-- Expansions over definitions in a row agree. A source that is checked and one that is used as it stands
come to the same catalog, in which the first definition of a name counts, though it be empty; so that a
prompt is expanded alike as a whole, as a chain, over the catalog of the source, and, if it has no bar, as
one unit. -/
theorem expansions_agree_over_definitions (settings : Settings) (text : Text)
    {definitions : List Definition} {source : Value} (row : IsRowOf definitions source) :
    ∃ catalog whole,
      Catalog.ofValue? source = .ok catalog ∧
      UncheckedCatalog.ofValue? source = .ok { catalog } ∧
      (∀ name, catalog.entries name = Catalog.entries definitions name) ∧
      expandOver? settings source text = .ok whole ∧
      expandChainOver? settings source text = .ok whole ∧
      expandOver? settings (.tuple (catalog.map .definition)) text = .ok whole ∧
      (Chain.bar ∉ text → expandUnitOver? settings source text = .ok whole) := by
  have checked := row.catalog_ofValue?
  have standing := row.unchecked_ofValue?
  let catalog := Catalog.distinct definitions
  have repeated : IsRowOf catalog (.tuple (catalog.map .definition)) := .tuple
  refine ⟨catalog, expand settings catalog text, checked, standing,
    Catalog.entries_distinct definitions, ?_, ?_, ?_, ?_⟩
  · rw [expandOver?, checked]
    rfl
  · rw [expandChainOver?, UncheckedCatalog.expansion?_of_writable standing, expandChain_eq_expand]
  · rw [expandOver?, repeated.catalog_ofValue?, Catalog.distinct_distinct]
    rfl
  · intro unbarred
    rw [expandUnitOver?, UncheckedCatalog.expansion?_of_writable standing,
      ofUnit_expandUnit settings _ unbarred]

/-- A name whose first definition is empty is missing, though a later one is not. -/
theorem expansions_agree_over_empty_first :
    let definitions : List Definition := [⟨"hero".toList, []⟩, ⟨"hero".toList, ["Ann".toList]⟩]
    let source := Value.list (definitions.map .definition)
    let text := "_hero_ waves".toList
    IsRowOf definitions source ∧ Chain.bar ∉ text ∧ ∃ whole, whole.issues = [.missing ["hero".toList]] ∧
      expandOver? {} source text = .ok whole ∧ expandChainOver? {} source text = .ok whole ∧
      expandUnitOver? {} source text = .ok whole := by
  intro definitions source text
  have row : IsRowOf definitions source := .list
  have unbarred : Chain.bar ∉ text := by decide
  obtain ⟨_, whole, _, _, _, prompted, chained, _, alone⟩ :=
    expansions_agree_over_definitions {} text row
  refine ⟨row, unbarred, whole, ?_, prompted, chained, alone unbarred⟩
  have refused : (expandOver? {} source text).map (·.issues) = .ok [.missing ["hero".toList]] := by
    simp only [source, definitions, text]
    cbv
  rw [prompted] at refused
  exact Except.ok.inj refused

end PromptTemplate
