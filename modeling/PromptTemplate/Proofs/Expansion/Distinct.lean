import PromptTemplate.Expansion.Expand
import PromptTemplate.Proofs.Expansion.Cases
import PromptTemplate.Proofs.Expansion.Wildcards
import PromptTemplate.Proofs.Reference.Recovery

set_option autoImplicit false

namespace PromptTemplate

namespace Selection

section

variable {α : Type} {lists : List (List α)}

theorem length_of_mem_product {chosen : List α} (member : chosen ∈ product lists) : chosen.length = lists.length := by
  induction lists generalizing chosen with
  | nil =>
      obtain rfl := List.mem_singleton.mp member
      rfl
  | cons choices lists ih =>
      obtain ⟨choice, _, later⟩ := List.mem_flatMap.mp member
      obtain ⟨rest, inside, rfl⟩ := List.mem_map.mp later
      rw [List.length_cons, ih inside, List.length_cons]

/-- No choice is made twice from lists without repetitions. -/
theorem nodup_product (distinct : ∀ list ∈ lists, list.Nodup) : (product lists).Nodup := by
  induction lists with
  | nil => exact List.nodup_singleton []
  | cons choices lists ih =>
      rw [List.forall_mem_cons] at distinct
      rw [product, List.nodup_flatMap]
      refine ⟨fun choice _ => (ih distinct.2).map (List.cons_injective), ?_⟩
      refine distinct.1.imp fun {first second} differ => ?_
      -- Choices that begin differently are different.
      rw [Function.onFun, List.disjoint_left]
      intro chosen early late
      obtain ⟨rest, _, rfl⟩ := List.mem_map.mp early
      obtain ⟨other, _, same⟩ := List.mem_map.mp late
      exact differ (List.cons.inj same).1.symm

end

/-- Entries that could be names themselves: word characters, at least one. -/
def IsWorded (entries : Text → List Text) (names : List Text) : Prop :=
  ∀ name ∈ names, ∀ entry ∈ entries name, Reference.IsName entry

variable {entries : Text → List Text} {names : List Text}

theorem Selects.spells {picks : Text → Option Text} (selects : Selects entries names picks)
    (worded : IsWorded entries names) : Reference.Spells picks names := by
  intro name member
  obtain ⟨value, picked⟩ := Option.isSome_iff_exists.mp ((selects.isSome_iff name).mpr member)
  exact ⟨value, picked, worded name member value (selects.mem_entries name value picked)⟩

theorem unit_injective {text : Text} (worded : IsWorded entries (Reference.names text)) {picks others : List Text}
    (chosen : picks ∈ product ((Reference.names text).map entries))
    (other : others ∈ product ((Reference.names text).map entries))
    (same : unit text (Reference.names text) picks = unit text (Reference.names text) others) : picks = others := by
  have distinct := Reference.nodup_names text
  have width := length_of_mem_product chosen
  have width' := length_of_mem_product other
  rw [List.length_map] at width width'
  have agree := Reference.eq_of_trim_substitute_eq ((selects_pick chosen).spells worded)
    ((selects_pick other).spells worded) same
  have values := List.map_congr_left agree
  rw [map_pick distinct width.symm, map_pick distinct width'.symm] at values
  exact (List.map_injective_iff.mpr (Option.some_injective Text)) values

theorem nodup_units {text : Text} (worded : IsWorded entries (Reference.names text))
    (distinct : ∀ name ∈ Reference.names text, (entries name).Nodup) :
    ((product ((Reference.names text).map entries)).map (unit text (Reference.names text))).Nodup := by
  apply List.Nodup.map_on
  · exact fun picks chosen others other same => unit_injective worded chosen other same
  · exact nodup_product (List.forall_mem_map.mpr distinct)

end Selection

/-- Distinct selections give distinct prompts. Over any value that is accepted as a catalog, if each name that a text
refers to has distinct entries of word characters, the prompts of a valid expansion are those of the selections, one
after the other, and no two of them are the same; selections that make the same prompt are the same. -/
theorem distinct_selections_distinct_prompts (settings : Settings) {source : Value} {catalog : Catalog}
    (accepted : Catalog.ofValue? source = .ok catalog) {text : Text} (unbarred : Chain.bar ∉ text)
    (referring : Reference.names text ≠ [])
    (distinct : ∀ name ∈ Reference.names text, (catalog.entries name).Nodup)
    (worded : ∀ name ∈ Reference.names text, ∀ entry ∈ catalog.entries name,
      entry ≠ [] ∧ ∀ c ∈ entry, Text.isWordChar c = true) :
    let names := Reference.names text
    let selections := Selection.product (names.map catalog.entries)
    ∃ whole, expandOver? settings source text = .ok whole ∧
      (whole.isValid = true → whole.units = selections.map (Selection.unit text names) ∧ whole.units.Nodup) ∧
      ∀ picks ∈ selections, ∀ others ∈ selections,
        Selection.unit text names picks = Selection.unit text names others → picks = others := by
  intro names selections
  have named : Selection.IsWorded catalog.entries names := fun name member entry among =>
    ⟨(worded name member entry among).1, (worded name member entry among).2⟩
  refine ⟨expand settings catalog text, by rw [expandOver?, accepted]; rfl, ?_, ?_⟩
  · intro valid
    have single := expand_of_referring settings catalog unbarred referring
    have made : (expand settings catalog text).units = selections.map (Selection.unit text names) := by
      rw [single] at valid ⊢
      exact (UnitKind.units_of_wildcarded referring valid).trans (Selection.units_of_names text _ referring)
    rw [made]
    exact ⟨rfl, Selection.nodup_units named distinct⟩
  · intro picks chosen others other same
    exact Selection.unit_injective named chosen other same

/-- Entries that look like references, glued to letters and repeated, are told apart. -/
theorem distinct_prompts_of_glued_entries :
    let source := Value.map [(.text "a".toList, .list [.text "_b_".toList, .text "t".toList]),
      (.text "b".toList, .text "b\n_".toList)]
    let text := "k_a_s (_b_) _a_ ".toList
    ∃ whole, expandOver? {} source text = .ok whole ∧ whole.isValid = true ∧
      whole.units = ["k_b_s (b) _b_".toList, "k_b_s (_) _b_".toList, "kts (b) t".toList, "kts (_) t".toList] ∧
      whole.units.Nodup := by
  intro source text
  let catalog : Catalog := [⟨"a".toList, ["_b_".toList, "t".toList]⟩, ⟨"b".toList, ["b".toList, "_".toList]⟩]
  have accepted : Catalog.ofValue? source = .ok catalog := by
    simp only [source, catalog]
    cbv
  have found : Reference.names text = ["a".toList, "b".toList] := by
    simp only [text]
    cbv
  have referring : Reference.names text ≠ [] := by
    rw [found]
    decide
  have distinct : ∀ name ∈ Reference.names text, (catalog.entries name).Nodup := by
    rw [found]
    decide
  have checked : ∀ name ∈ Reference.names text, ∀ entry ∈ catalog.entries name,
      entry ≠ [] ∧ entry.all Text.isWordChar = true := by
    rw [found]
    decide
  have worded : ∀ name ∈ Reference.names text, ∀ entry ∈ catalog.entries name,
      entry ≠ [] ∧ ∀ c ∈ entry, Text.isWordChar c = true := fun name member entry among =>
    ⟨(checked name member entry among).1, List.all_eq_true.mp (checked name member entry among).2⟩
  obtain ⟨whole, made, distinctUnits, _⟩ :=
    distinct_selections_distinct_prompts {} accepted (by decide) referring distinct worded
  have computed : expandOver? {} source text = .ok (expand {} catalog text) := by
    rw [expandOver?, accepted]
    rfl
  obtain rfl := Except.ok.inj (made.symm.trans computed)
  have valid : (expand {} catalog text).isValid = true := by
    simp only [catalog, text]
    cbv
  refine ⟨_, made, valid, ?_, (distinctUnits valid).2⟩
  simp only [catalog, text]
  cbv

end PromptTemplate
