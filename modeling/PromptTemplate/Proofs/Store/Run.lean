import Mathlib.Data.List.Forall2
import PromptTemplate.Proofs.Store.Soundness

set_option autoImplicit false

namespace PromptTemplate.Store

/-- The items that operations store, in the order of their creation, whatever becomes of them later. -/
def created (store : Store) (operations : List Operation) : List StoredWildcard :=
  (store.history operations).filterMap (·.answer.saved?)

theorem created_cons (store : Store) (operation : Operation) (rest : List Operation) :
    store.created (operation :: rest) =
      (store.perform operation).1.saved?.toList ++ (store.perform operation).2.created rest := by
  rw [created, history_cons, List.filterMap_cons]
  cases (store.perform operation).1.saved? <;> rfl

namespace Effect

variable {store next : Store} {operation : Operation} {answer : Answer}
  (effect : Effect store operation answer next)

include effect

theorem nextSerial_le : store.nextSerial ≤ next.nextSerial := by
  cases effect with
  | created free => exact Nat.le_succ _
  | _ => exact Nat.le_refl _

/-- An item that is stored takes the next number, which is then gone. -/
theorem serial_of_saved {item : StoredWildcard} (saved : answer.saved? = some item) :
    item.serial = store.nextSerial ∧ item.serial < next.nextSerial := by
  cases effect with
  | created free =>
      obtain rfl := Option.some.inj saved
      exact ⟨rfl, Nat.lt_succ_self _⟩
  | idle unsaved =>
      rw [unsaved] at saved
      cases saved
  | _ => cases saved

theorem ids_sublist :
    (next.items.map (·.id)).Sublist (store.items.map (·.id) ++ answer.saved?.toList.map (·.id)) := by
  cases effect with
  | created free =>
      rw [added, List.map_append]
      exact List.Sublist.refl _
  | changed found fit =>
      rw [map_id_replaceItem]
      exact List.sublist_append_left _ _
  | removed found => exact (List.filter_sublist.map _).trans (List.sublist_append_left _ _)
  | idle unsaved => exact List.sublist_append_left _ _

end Effect

/-- A run stores nothing under a number that had been given before it. -/
theorem nextSerial_le_of_mem_created {store : Store} {operations : List Operation} {item : StoredWildcard}
    (member : item ∈ store.created operations) : store.nextSerial ≤ item.serial := by
  induction operations generalizing store with
  | nil => cases member
  | cons operation rest ih =>
      have effect := perform_effect store operation
      rw [created_cons, List.mem_append, Option.mem_toList] at member
      rcases member with saved | later
      · exact Nat.le_of_eq (effect.serial_of_saved saved).1.symm
      · exact Nat.le_trans effect.nextSerial_le (ih later)

theorem created_ascending (store : Store) (operations : List Operation) :
    (store.created operations).Pairwise fun first second => first.serial < second.serial := by
  induction operations generalizing store with
  | nil => exact List.Pairwise.nil
  | cons operation rest ih =>
      have effect := perform_effect store operation
      rw [created_cons, List.pairwise_append]
      refine ⟨?_, ih _, ?_⟩
      · cases (store.perform operation).1.saved? <;> simp
      · intro item saved later among
        have given := (effect.serial_of_saved (Option.mem_toList.mp saved)).2
        exact Nat.lt_of_lt_of_le given (nextSerial_le_of_mem_created among)

/-- A run takes items away and puts new ones behind all others, and so keeps the order of creation. -/
theorem ids_final_sublist (store : Store) (operations : List Operation) :
    ((store.final operations).items.map (·.id)).Sublist
      (store.items.map (·.id) ++ (store.created operations).map (·.id)) := by
  induction operations generalizing store with
  | nil => exact List.sublist_append_left _ _
  | cons operation rest ih =>
      rw [final_cons, created_cons, List.map_append, ← List.append_assoc]
      exact (ih _).trans ((perform_effect store operation).ids_sublist.append_right _)

/-- A number that was given to an item which is gone is not given again. -/
theorem ids_after_delete (store : Store) (sound : store.IsSound) {id : Text} (present : (store.get? id).isSome)
    (later : List Operation) :
    let next := (store.perform (.delete id)).2
    (next.final later).get? id = none ∧ ∀ item ∈ next.created later, item.id ≠ id := by
  intro next
  obtain ⟨item, found⟩ := Option.isSome_iff_exists.mp present
  obtain ⟨member, rfl⟩ := mem_of_get? found
  have unused : ∀ other ∈ next.created later, other.id ≠ item.id := by
    intro other among same
    have given : item.serial < store.nextSerial := sound.given item member
    have fresh : next.nextSerial ≤ other.serial := nextSerial_le_of_mem_created among
    rw [StoredWildcard.id_eq_iff.mp same] at fresh
    exact absurd given (Nat.not_lt.mpr fresh)
  refine ⟨get?_eq_none_iff.mpr fun other among same => ?_, unused⟩
  have source := (ids_final_sublist next later).subset (List.mem_map_of_mem among)
  rcases List.mem_append.mp source with kept | later
  · obtain ⟨rest, inside, equal⟩ := List.mem_map.mp kept
    have apart : rest.id ≠ item.id := by simpa using (List.mem_filter.mp inside).2
    exact apart (equal.trans same)
  · obtain ⟨stored, inside, equal⟩ := List.mem_map.mp later
    exact unused stored inside (equal.trans same)

/-- What becomes of an item when the item with an id is updated. -/
structure UpdatedAt (id : Text) (changes : Assoc Text Text) (before after : StoredWildcard) : Prop where
  serial : after.serial = before.serial
  user : after.user = before.user
  others : before.id ≠ id → after = before
  itself : before.id = id → after = before ∨ after = applyChanges changes before

theorem updatedAt_refl (id : Text) (changes : Assoc Text Text) (item : StoredWildcard) :
    UpdatedAt id changes item item :=
  ⟨rfl, rfl, fun _ => rfl, fun _ => .inl rfl⟩

/-- An update keeps every item at its place. -/
theorem updatedAt_perform {store : Store} (sound : store.IsSound) (id : Text)
    (changes : List (Text × Text)) :
    List.Forall₂ (UpdatedAt id (.ofList changes)) store.items
      (store.perform (.update id changes)).2.items := by
  have unchanged : List.Forall₂ (UpdatedAt id (.ofList changes)) store.items store.items :=
    List.forall₂_same.mpr fun item _ => updatedAt_refl id _ item
  rw [perform_update]
  split
  · exact unchanged
  · next item found =>
      split
      · exact unchanged
      · obtain ⟨member, rfl⟩ := mem_of_get? found
        rw [replaceItem_items, List.forall₂_map_right_iff, List.forall₂_same]
        intro present among
        rw [applyChanges_id]
        split
        · next same =>
            obtain rfl := sound.eq_of_id among member same
            exact ⟨rfl, rfl, fun differ => absurd rfl differ, fun _ => .inr rfl⟩
        · exact updatedAt_refl _ _ present

theorem IsSound.nodup_names {store : Store} (sound : store.IsSound) (user : Text) :
    ((store.definitions user).map (·.name)).Nodup := by
  rw [definitions, List.map_map, List.Nodup, List.pairwise_map]
  refine (sound.apart.filter (·.user == user)).imp_of_mem ?_
  intro first second inFirst inSecond apart
  have owner {item : StoredWildcard} (member : item ∈ store.items.filter (·.user == user)) :
      item.user = user := by simpa using (List.mem_filter.mp member).2
  exact apart ((owner inFirst).trans (owner inSecond).symm)

/-- What holds of a store behind a run that stored the items `created`. -/
structure IsKept (created : List StoredWildcard) (store : Store) : Prop where
  /-- An item is found under its own id and under no other. -/
  filed : ∀ id item, store.get? id = some item ↔ item ∈ store.items ∧ item.id = id
  /-- Numbers go up in the order of creation. -/
  ascending : created.Pairwise fun first second => first.serial < second.serial
  /-- No id is given twice. -/
  distinct : (created.map (·.id)).Nodup
  /-- The items stand in the order of their creation. -/
  ordered : (store.items.map (·.id)).Sublist (created.map (·.id))
  apart : store.items.Pairwise fun first second => first.user = second.user → first.name ≠ second.name
  named : ∀ item ∈ store.items, (Name.validate item.name).isValid = true

theorem isKept_final (operations : List Operation) :
    IsKept (created {} operations) (final {} operations) := by
  have sound := isSound_empty.final operations
  have ascending := created_ascending {} operations
  refine ⟨fun id item => sound.get?_eq_some_iff, ascending, ?_, ids_final_sublist {} operations,
    sound.apart, fun item member => ?_⟩
  · rw [List.Nodup, List.pairwise_map]
    exact ascending.imp fun less same => Nat.ne_of_lt less (StoredWildcard.id_eq_iff.mp same)
  · exact Name.isValid_validate_iff.mpr (sound.named item member)

/-- Behind any run from an empty store, with whatever failures, items are filed under their own ids, in the order
of their creation and with names apart. An id that was deleted leads to nothing and is not given again; an
update changes nothing but the name, the content and the category of its item; and the definitions of a user are
those of the user's items in the order of their creation, with names that differ. -/
theorem store_kept_through_runs (operations : List Operation) :
    let store := final {} operations
    IsKept (created {} operations) store ∧
      (∀ earlier id later, operations = earlier ++ .delete id :: later →
        ((final {} earlier).get? id).isSome → store.get? id = none ∧
          ∀ item ∈ (final {} (earlier ++ [.delete id])).created later, item.id ≠ id) ∧
      (∀ id changes, List.Forall₂ (UpdatedAt id (.ofList changes)) store.items
        (store.perform (.update id changes)).2.items) ∧
      ∀ user, ((store.definitions user).map (·.name)).Nodup ∧
        ∃ owned : List StoredWildcard, owned.Sublist store.items ∧
          (∀ item, item ∈ owned ↔ item ∈ store.items ∧ item.user = user) ∧
          store.perform (.definitions user) = (.definitions (owned.map (·.definition)), store) := by
  intro store
  have sound : store.IsSound := isSound_empty.final operations
  refine ⟨isKept_final operations, ?_, updatedAt_perform sound, fun user => ⟨sound.nodup_names user, ?_⟩⟩
  · rintro earlier id later whole present
    have deleted := ids_after_delete _ (isSound_empty.final earlier) present later
    rw [final_append]
    simp only [store, whole, final_append, final_cons]
    exact deleted
  · refine ⟨store.items.filter (·.user == user), List.filter_sublist, fun item => ?_, rfl⟩
    rw [List.mem_filter, beq_iff_eq]

end PromptTemplate.Store
