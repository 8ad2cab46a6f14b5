import Mathlib.Data.List.Nodup
import Mathlib.Data.List.Pairwise
import PromptTemplate.Store.Operation

set_option autoImplicit false

namespace PromptTemplate

namespace StoredWildcard

theorem idOf_injective : Function.Injective idOf := by
  intro first second same
  have numerals : Text.ofNat first = Text.ofNat second := List.append_cancel_left same
  calc
    first = Nat.ofDigitChars 10 (Text.ofNat first) 0 := (Nat.ofDigitChars_ten_toDigits).symm
    _ = Nat.ofDigitChars 10 (Text.ofNat second) 0 := by rw [numerals]
    _ = second := Nat.ofDigitChars_ten_toDigits

theorem id_eq_iff {first second : StoredWildcard} : first.id = second.id ↔ first.serial = second.serial :=
  idOf_injective.eq_iff

end StoredWildcard

namespace Store

@[simp] theorem applyChanges_id (changes : Assoc Text Text) (item : StoredWildcard) :
    (applyChanges changes item).id = item.id := rfl

@[simp] theorem applyChanges_user (changes : Assoc Text Text) (item : StoredWildcard) :
    (applyChanges changes item).user = item.user := rfl

theorem applyChanges_name (changes : Assoc Text Text) (item : StoredWildcard) :
    (applyChanges changes item).name = (changes.get? "name".toList).getD item.name := rfl

/-- What holds of a store that was empty at first: serial numbers go up from item to item, none of them is yet to
be given, every name is valid, and the names of one user differ. -/
structure IsSound (store : Store) : Prop where
  ascending : store.items.Pairwise fun first second => first.serial < second.serial
  given : ∀ item ∈ store.items, item.serial < store.nextSerial
  named : ∀ item ∈ store.items, Name.fault? item.name = none
  apart : store.items.Pairwise fun first second => first.user = second.user → first.name ≠ second.name

theorem isSound_empty : IsSound {} :=
  ⟨List.Pairwise.nil, by simp, by simp, List.Pairwise.nil⟩

theorem get?_eq_none_iff {store : Store} {id : Text} :
    store.get? id = none ↔ ∀ item ∈ store.items, item.id ≠ id := by
  simp [get?]

theorem mem_of_get? {store : Store} {id : Text} {item : StoredWildcard}
    (found : store.get? id = some item) : item ∈ store.items ∧ item.id = id :=
  ⟨List.mem_of_find?_eq_some found, by simpa using List.find?_some found⟩

theorem nameFault?_eq_none_iff {store : Store} {user name : Text} {except : Option Text} :
    store.nameFault? user name except = none ↔ Name.fault? name = none ∧
      ∀ item ∈ store.items, item.user = user → item.name = name → some item.id = except := by
  cases fault : Name.fault? name with
  | some fault => simp [nameFault?, fault]
  | none => simp [nameFault?, fault, isTaken]

namespace IsSound

variable {store : Store} (sound : store.IsSound)

include sound

theorem nodup_ids : (store.items.map (·.id)).Nodup := by
  rw [List.Nodup, List.pairwise_map]
  exact sound.ascending.imp fun less same => Nat.ne_of_lt less (StoredWildcard.id_eq_iff.mp same)

theorem eq_of_id {first second : StoredWildcard} (inFirst : first ∈ store.items)
    (inSecond : second ∈ store.items) (same : first.id = second.id) : first = second :=
  List.inj_on_of_nodup_map sound.nodup_ids inFirst inSecond same

theorem get?_eq_some_iff {id : Text} {item : StoredWildcard} :
    store.get? id = some item ↔ item ∈ store.items ∧ item.id = id := by
  refine ⟨mem_of_get?, ?_⟩
  rintro ⟨member, rfl⟩
  cases found : store.get? item.id with
  | none => exact absurd rfl (get?_eq_none_iff.mp found item member)
  | some other =>
      obtain ⟨among, same⟩ := mem_of_get? found
      rw [sound.eq_of_id among member same]

theorem eq_of_name {first second : StoredWildcard} (inFirst : first ∈ store.items)
    (inSecond : second ∈ store.items) (owner : first.user = second.user)
    (name : first.name = second.name) : first = second := by
  by_contra differ
  have symmetric : Std.Symm fun first second : StoredWildcard =>
      first.user = second.user → first.name ≠ second.name :=
    ⟨fun _ _ apart owner name => apart owner.symm name.symm⟩
  exact sound.apart.forall inFirst inSecond differ owner name

theorem id_ne_next {item : StoredWildcard} (member : item ∈ store.items) :
    item.id ≠ StoredWildcard.idOf store.nextSerial := by
  intro same
  have serial : item.serial = store.nextSerial := StoredWildcard.idOf_injective same
  exact Nat.ne_of_lt (sound.given item member) serial

end IsSound

end Store

end PromptTemplate
