import PromptTemplate.Proofs.Assoc.Keys
import PromptTemplate.Proofs.Store.Effects
import PromptTemplate.Proofs.Store.Soundness
import PromptTemplate.Store.Shelf

set_option autoImplicit false

namespace PromptTemplate

def StoredWildcard.card (item : StoredWildcard) : Card :=
  ⟨item.id, item.user, item.name, item.content, item.category⟩

/-- The shelf that holds the items of a store, each under its id. -/
def Store.shelf (store : Store) : Shelf where
  cards := store.items.map fun item => (item.id, item.card)
  nextSerial := store.nextSerial

namespace Store

theorem get?_shelf (store : Store) (id : Text) : store.shelf.get? id = (store.get? id).map StoredWildcard.card := by
  simp only [Shelf.get?, shelf, Assoc.get?, Assoc.find?, List.find?_map, Option.map_map, get?]
  rfl

theorem definitions_shelf (store : Store) (user : Text) : store.shelf.definitions user = store.definitions user := by
  simp only [Shelf.definitions, shelf, List.map_map, List.filter_map, definitions]
  rfl

theorem nameFault?_shelf (store : Store) (user name : Text) (except : Option Text) :
    store.shelf.nameFault? user name except = store.nameFault? user name except := by
  have taken : store.shelf.isTaken user name except = store.isTaken user name except := by
    rw [Shelf.isTaken, shelf, List.any_map]
    rfl
  cases fault : Name.fault? name with
  | some cause => simp only [Shelf.nameFault?, nameFault?, fault]
  | none => simp only [Shelf.nameFault?, nameFault?, fault, taken]

theorem changeFault?_shelf (store : Store) (item : StoredWildcard) (changes : Assoc Text Text) :
    store.shelf.changeFault? item.card changes = store.changeFault? item changes := by
  rw [Shelf.changeFault?, changeFault?]
  cases unknownFields changes with
  | cons field fields => rfl
  | nil =>
      cases changes.get? "name".toList with
      | none => rfl
      | some name => exact nameFault?_shelf store item.user name (some item.id)

theorem delete_shelf (store : Store) (id : Text) :
    store.shelf.delete id = ((store.delete id).1, (store.delete id).2.shelf) := by
  rw [Shelf.delete, get?_shelf, Option.isSome_map, delete]
  simp only [shelf, List.filter_map]
  rfl

theorem insert_card {items : List StoredWildcard} (nodup : (items.map (·.id)).Nodup) {changed : StoredWildcard}
    (present : changed.id ∈ items.map (·.id)) :
    Assoc.insert (items.map fun item => (item.id, item.card)) changed.id changed.card =
      (items.map fun item => if item.id == changed.id then changed else item).map fun item => (item.id, item.card) := by
  induction items with
  | nil => cases present
  | cons item rest ih =>
      obtain ⟨fresh, others⟩ := List.nodup_cons.mp nodup
      simp only [Assoc.insert] at ih ⊢
      by_cases here : item.id = changed.id
      · have kept : ∀ other ∈ rest, (if other.id == changed.id then changed else other) = other := by
          intro other member
          refine if_neg fun same => fresh ?_
          exact List.mem_map.mpr ⟨other, member, (eq_of_beq same).trans here.symm⟩
        have same : (item.id == changed.id) = true := beq_iff_eq.mpr here
        rw [List.map_cons, List.map_cons, List.map_cons, List.map_congr_left kept, List.map_id', Assoc.insertBy, if_pos same,
          if_pos same, here]
      · have differ : ¬ (item.id == changed.id) = true := mt eq_of_beq here
        have among : changed.id ∈ rest.map (·.id) := (List.mem_cons.mp present).resolve_left (Ne.symm here)
        rw [List.map_cons, List.map_cons, List.map_cons, Assoc.insertBy, if_neg differ, if_neg differ, ih others among]

namespace IsSound

variable {store : Store} (sound : store.IsSound)

include sound

theorem save_shelf (user name content category : Text) :
    store.shelf.save user name content category =
      (store.save user name content category).map fun saved => (saved.1.card, saved.2.shelf) := by
  rw [Shelf.save, nameFault?_shelf, save]
  cases store.nameFault? user name none with
  | some fault => rfl
  | none =>
      -- The next id is no key yet, so that the card goes behind all others.
      have fresh : ∀ entry ∈ store.shelf.cards, (entry.1 == StoredWildcard.idOf store.nextSerial) = false :=
        List.forall_mem_map.mpr fun item member => beq_eq_false_iff_ne.mpr (sound.id_ne_next member)
      simp only [Except.map, Assoc.insert]
      refine congrArg (fun cards => Except.ok (_, Shelf.mk cards _)) ?_
      rw [shelf, List.map_append]
      exact Assoc.insertBy_of_fresh _ fresh _

theorem update_shelf (id : Text) (changes : Assoc Text Text) :
    store.shelf.update id changes =
      match store.get? id with
      | none => .ok (none, store.shelf)
      | some item =>
        match store.changeFault? item changes with
        | some fault => .error fault
        | none =>
          .ok (some (applyChanges changes item).card, (store.replaceItem (applyChanges changes item)).shelf) := by
  rw [Shelf.update, get?_shelf]
  cases found : store.get? id with
  | none => rfl
  | some item =>
      obtain ⟨member, rfl⟩ := mem_of_get? found
      simp only [Option.map_some, changeFault?_shelf]
      cases store.changeFault? item changes with
      | some fault => rfl
      | none =>
          have present : (applyChanges changes item).id ∈ store.items.map (·.id) :=
            List.mem_map.mpr ⟨item, member, rfl⟩
          exact congrArg (fun cards => Except.ok (_, Shelf.mk cards _)) (insert_card sound.nodup_ids present)

theorem after_shelf (operation : Operation) : store.shelf.after operation = (store.perform operation).2.shelf := by
  cases operation with
  | save user name content category =>
      rw [Shelf.after, sound.save_shelf, Store.perform]
      cases store.save user name content category <;> rfl
  | update id changes =>
      rw [Shelf.after, sound.update_shelf, perform_update]
      cases store.get? id with
      | none => rfl
      | some item =>
          simp only
          cases store.changeFault? item (.ofList changes) <;> rfl
  | delete id => rw [Shelf.after, delete_shelf, Store.perform]
  | get id => rfl
  | definitions user => rfl
  | exportYaml user => rfl
  | expand settings user prompt => rfl

theorem final_shelf (operations : List Operation) : store.shelf.final operations = (store.final operations).shelf := by
  induction operations generalizing store with
  | nil => rfl
  | cons operation rest ih =>
      rw [final_cons, ← ih (sound.perform operation), ← sound.after_shelf]
      rfl

end IsSound

end Store

/-- However an empty shelf is filled, every card is filed under its own id, no key is used twice, and it is the shelf of
the store that the same operations lead to. -/
theorem Shelf.filed_under_own_ids (operations : List Store.Operation) :
    let shelf := final {} operations
    (∀ entry ∈ shelf.cards, entry.2.id = entry.1) ∧ (shelf.cards.map (·.1)).Nodup ∧
      shelf = (Store.final {} operations).shelf := by
  have whole : final {} operations = (Store.final {} operations).shelf := Store.isSound_empty.final_shelf operations
  refine ⟨?_, ?_, whole⟩
  · rw [whole, Store.shelf, List.forall_mem_map]
    exact fun item _ => rfl
  · rw [whole, Store.shelf, List.map_map]
    exact (Store.isSound_empty.final operations).nodup_ids

end PromptTemplate
