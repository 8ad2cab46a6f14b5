import Mathlib.Data.List.Forall2
import PromptTemplate.Catalog.Unchecked

set_option autoImplicit false

namespace PromptTemplate

namespace Catalog

theorem entries_cons (definition : Definition) (rest : Catalog) (name : Text) :
    entries (definition :: rest) name =
      if definition.name = name then definition.entries else entries rest name := by
  by_cases same : definition.name = name
  · simp [entries, same]
  · have differ : (definition.name == name) = false := by simpa using same
    simp [entries, same, differ]

/-- Whether nothing can be picked for a name: its first definition has no entries, or there is none. -/
def lacks (definitions : List Definition) (name : Text) : Bool :=
  match definitions.find? (·.name == name) with
  | some first => first.entries.isEmpty
  | none => true

theorem lacks_eq_isEmpty (definitions : Catalog) (name : Text) :
    lacks definitions name = (definitions.entries name).isEmpty := by
  rw [lacks, entries]
  cases definitions.find? (·.name == name) <;> rfl

theorem exists_definition_of_mem_entries {catalog : Catalog} {name entry : Text}
    (member : entry ∈ catalog.entries name) :
    ∃ definition ∈ catalog, definition.name = name ∧ entry ∈ definition.entries := by
  induction catalog with
  | nil => cases member
  | cons definition rest ih =>
      rw [entries_cons] at member
      split at member
      · next same => exact ⟨definition, List.mem_cons_self, same, member⟩
      · obtain ⟨other, among, found⟩ := ih member
        exact ⟨other, List.mem_cons_of_mem definition among, found⟩

/-- Leaving out later definitions does not change what is looked up. -/
theorem entries_distinctAfter {seen : List Text} {name : Text} (unseen : name ∉ seen)
    (catalog : Catalog) : (distinctAfter seen catalog).entries name = catalog.entries name := by
  induction catalog generalizing seen with
  | nil => rfl
  | cons definition rest ih =>
      rw [distinctAfter, entries_cons]
      split
      · next known =>
          have other : definition.name ≠ name := by
            rintro rfl
            exact unseen (by simpa using known)
          rw [if_neg other, ih unseen]
      · rw [entries_cons]
        by_cases same : definition.name = name
        · rw [if_pos same, if_pos same]
        · rw [if_neg same, if_neg same]
          apply ih
          rw [List.mem_cons, not_or]
          exact ⟨Ne.symm same, unseen⟩

@[simp] theorem entries_distinct (catalog : Catalog) (name : Text) :
    catalog.distinct.entries name = catalog.entries name :=
  entries_distinctAfter List.not_mem_nil catalog

/-- Leaving out later definitions does not change which names have no entries. -/
theorem filter_isEmpty_entries_distinct (definitions : Catalog) (names : List Text) :
    (names.filter fun name => (definitions.distinct.entries name).isEmpty) = names.filter (lacks definitions) := by
  apply List.filter_congr
  intro name _
  rw [entries_distinct, lacks_eq_isEmpty]

theorem distinctAfter_distinctAfter (seen : List Text) (catalog : Catalog) :
    distinctAfter seen (distinctAfter seen catalog) = distinctAfter seen catalog := by
  induction catalog generalizing seen with
  | nil => rfl
  | cons definition rest ih =>
      rw [distinctAfter]
      split
      · exact ih seen
      · next fresh => rw [distinctAfter, if_neg fresh, ih]

@[simp] theorem distinct_distinct (catalog : Catalog) : catalog.distinct.distinct = catalog.distinct :=
  distinctAfter_distinctAfter [] catalog

/-- If no name is defined twice, nothing is left out. -/
theorem distinct_of_nodup {catalog : Catalog} (nodup : (catalog.map (·.name)).Nodup) :
    catalog.distinct = catalog := by
  have kept : ∀ (rest : Catalog) (seen : List Text), (rest.map (·.name)).Nodup →
      (∀ definition ∈ rest, definition.name ∉ seen) → distinctAfter seen rest = rest := by
    intro rest
    induction rest with
    | nil => intro seen _ _; rfl
    | cons definition rest ih =>
        intro seen nodup unseen
        obtain ⟨fresh, others⟩ := List.nodup_cons.mp nodup
        obtain ⟨here, later⟩ := List.forall_mem_cons.mp unseen
        rw [distinctAfter, if_neg (by simpa using here), ih _ others]
        intro other among
        refine List.not_mem_cons_of_ne_of_not_mem (fun same => fresh ?_) (later other among)
        exact List.mem_map.mpr ⟨other, among, same⟩
  exact kept catalog [] nodup fun _ _ => List.not_mem_nil

theorem filter_of_mem {catalog : Catalog} (nodup : (catalog.map (·.name)).Nodup) {definition : Definition}
    (member : definition ∈ catalog) : catalog.filter (·.name == definition.name) = [definition] := by
  obtain ⟨before, after, rfl⟩ := List.append_of_mem member
  rw [List.map_append, List.map_cons, List.nodup_append, List.nodup_cons] at nodup
  obtain ⟨_, ⟨last, _⟩, apart⟩ := nodup
  have early : before.filter (·.name == definition.name) = [] := by
    rw [List.filter_eq_nil_iff]
    intro other among same
    exact apart _ (List.mem_map.mpr ⟨other, among, rfl⟩) _ List.mem_cons_self (beq_iff_eq.mp same)
  have late : after.filter (·.name == definition.name) = [] := by
    rw [List.filter_eq_nil_iff]
    intro other among same
    exact last (List.mem_map.mpr ⟨other, among, beq_iff_eq.mp same⟩)
  rw [List.filter_append, early, List.nil_append, List.filter_cons_of_pos (by simp), late]

@[simp] theorem ofItems?_definitions (definitions : Catalog) :
    ofItems? (definitions.map .definition) = .ok definitions := by
  induction definitions with
  | nil => rfl
  | cons definition rest ih =>
      rw [List.map_cons, ofItems?, ih]
      rfl

end Catalog

namespace UncheckedCatalog

theorem enter_texts (unchecked : UncheckedCatalog) (definition : Definition) :
    unchecked.enter definition.name (definition.entries.map .text) =
      if unchecked.catalog.any (·.name == definition.name) then unchecked
      else { unchecked with catalog := unchecked.catalog ++ [definition] } := by
  have words : (definition.entries.map Value.text).map written = definition.entries := by
    rw [List.map_map]
    exact List.map_id definition.entries
  have writable : (definition.entries.map Value.text).all isWritable = true := by
    simp [isWritable]
  rw [enter, words, writable]
  rfl

theorem enterItems_definitions {seen : List Text} {done : Catalog}
    (known : ∀ name, done.any (·.name == name) = seen.contains name) (definitions : Catalog) :
    enterItems { catalog := done } (definitions.map .definition) =
      .ok { catalog := done ++ Catalog.distinctAfter seen definitions } := by
  -- The names that were seen are those that have been entered; each step keeps it so.
  induction definitions generalizing seen done with
  | nil =>
      rw [Catalog.distinctAfter, List.append_nil]
      rfl
  | cons definition rest ih =>
      rw [List.map_cons, enterItems, enter_texts, Catalog.distinctAfter, known definition.name]
      split
      · exact ih known
      · have later : ∀ name, (done ++ [definition]).any (·.name == name) =
            (definition.name :: seen).contains name := by
          intro name
          rw [List.any_append, known name, List.contains_cons, Bool.or_comm]
          simp [Bool.beq_comm]
        rw [ih later, List.append_assoc, List.singleton_append]

theorem enterItems_eq_distinct (definitions : Catalog) :
    enterItems {} (definitions.map .definition) = .ok { catalog := definitions.distinct } := by
  have known : ∀ name, ([] : Catalog).any (·.name == name) = ([] : List Text).contains name :=
    fun _ => rfl
  exact enterItems_definitions known definitions

/-- A pair of a map and the definition that it stands for: it gives texts for entries. -/
structure Reads (pair : Value × Value) (definition : Definition) : Prop where
  name : definition.name = pair.1.plain
  entries : entries? pair.2 = .ok (definition.entries.map .text)

/-- A map is entered like the definitions that its pairs stand for. -/
theorem enterPairs_eq_enterItems {pairs : List (Value × Value)} {definitions : Catalog}
    (read : List.Forall₂ Reads pairs definitions) (unchecked : UncheckedCatalog) :
    unchecked.enterPairs pairs = unchecked.enterItems (definitions.map .definition) := by
  induction read generalizing unchecked with
  | nil => rfl
  | @cons pair definition pairs definitions here _ ih =>
      rw [List.map_cons, enterPairs, enterItems, here.entries, ← here.name]
      exact ih _

/-- The definitions that a value holds for a catalog that is used as it stands, in their order: those that it is gone
through by, or those of the pairs of a map. -/
inductive Holds : Value → Catalog → Prop
  | row {source : Value} {definitions : Catalog} (mapless : ∀ pairs, source ≠ .map pairs)
      (contained : contents? source = .ok (definitions.map .definition)) : Holds source definitions
  | map {pairs : List (Value × Value)} {definitions : Catalog} (read : List.Forall₂ Reads pairs definitions) :
      Holds (.map pairs) definitions

/-- The first definition of each name is kept. -/
theorem Holds.ofValue?_eq {source : Value} {definitions : Catalog} (held : Holds source definitions) :
    ofValue? source = .ok { catalog := definitions.distinct } := by
  cases held with
  | row mapless contained =>
      rw [ofValue?]
      · simp only [contained, enterItems_eq_distinct]
      · exact fun pairs same => mapless pairs same
  | map read => rw [ofValue?, enterPairs_eq_enterItems read, enterItems_eq_distinct]

/-- Nothing is in the way of an expansion over a catalog that can be written. -/
theorem expansion?_of_writable {source : Value} {catalog : Catalog}
    (standing : ofValue? source = .ok { catalog }) (expand : Catalog → Expansion) :
    expansion? source expand = .ok (expand catalog) := by
  rw [expansion?, standing]
  simp [blocksAny, blocks]

end UncheckedCatalog

end PromptTemplate
