import PromptTemplate.Proofs.Assoc.Keys
import PromptTemplate.Proofs.Store.Soundness
import PromptTemplate.Store.InPlace

set_option autoImplicit false

namespace PromptTemplate

namespace StoredWildcard

@[simp] theorem withField_serial (field value : Text) (item : StoredWildcard) :
    (item.withField field value).serial = item.serial := by
  simp only [withField]
  split_ifs <;> rfl

@[simp] theorem withField_id (field value : Text) (item : StoredWildcard) :
    (item.withField field value).id = item.id :=
  id_eq_iff.mpr (withField_serial field value item)

/-- Fields that are written one after the other are written at once, as no field is named twice. -/
theorem foldl_withField {changes : Assoc Text Text} (nodup : (changes.map (·.1)).Nodup) (item : StoredWildcard) :
    changes.foldl (fun item change => item.withField change.1 change.2) item =
      Store.applyChanges changes item := by
  induction changes generalizing item with
  | nil => rfl
  | cons change rest ih =>
      obtain ⟨field, value⟩ := change
      obtain ⟨fresh, others⟩ := List.nodup_cons.mp nodup
      have unset : Assoc.get? rest field = none := Assoc.get?_eq_none_of_not_mem fresh
      rw [List.foldl_cons, ih others]
      have contentName : "content".toList ≠ "name".toList := by decide
      have categoryName : "category".toList ≠ "name".toList := by decide
      have categoryContent : "category".toList ≠ "content".toList := by decide
      simp only [Store.applyChanges, Assoc.get?_cons, withField, beq_iff_eq]
      split_ifs <;> simp_all only [ne_eq, Option.getD_none, Option.getD_some]

end StoredWildcard

namespace Store

theorem amend_amend (store : Store) (id : Text) {first : StoredWildcard → StoredWildcard}
    (kept : ∀ item, (first item).id = item.id) (second : StoredWildcard → StoredWildcard) :
    (store.amend id first).amend id second = store.amend id (second ∘ first) := by
  simp only [amend, List.map_map, Store.mk.injEq, and_true]
  apply List.map_congr_left
  intro item _
  simp only [Function.comp_apply]
  by_cases here : item.id = id
  · rw [if_pos here, if_pos ((kept item).trans here), if_pos here]
  · rw [if_neg here, if_neg here, if_neg here]

theorem IsSound.amend_eq_replaceItem {store : Store} (sound : store.IsSound) {item : StoredWildcard}
    (member : item ∈ store.items) {change : StoredWildcard → StoredWildcard}
    (kept : (change item).id = item.id) :
    store.amend item.id change = store.replaceItem (change item) := by
  simp only [amend, Store.replaceItem, kept, beq_iff_eq, Store.mk.injEq, and_true]
  apply List.map_congr_left
  intro present among
  split
  · next same => rw [sound.eq_of_id among member same]
  · rfl

theorem get?_replaceItem {store : Store} {item changed : StoredWildcard} (found : store.get? changed.id = some item) :
    (store.replaceItem changed).get? changed.id = some changed := by
  have kept : ((·.id == changed.id) ∘ fun present : StoredWildcard =>
      if present.id == changed.id then changed else present) = (·.id == changed.id) := by
    funext present
    by_cases same : present.id = changed.id <;> simp [same]
  rw [get?, replaceItem, List.find?_map, kept, ← get?, found, Option.map_some,
    if_pos (by simpa using (mem_of_get? found).2)]

namespace Action

theorem run_checkName (store : Store) (user name : Text) (except : Option Text) :
    (checkName user name except).run store =
      match store.nameFault? user name except with
      | some fault => .error fault store
      | none => .ok () store := by
  simp only [checkName, EStateM.run_bind, EStateM.run_get]
  cases store.nameFault? user name except <;> rfl

theorem run_save (store : Store) (user name content category : Text) :
    (save user name content category).run store =
      match store.nameFault? user name none with
      | some fault => .error fault store
      | none =>
        let item : StoredWildcard := ⟨store.nextSerial, user, name, content, category⟩
        .ok item (Store.put { store with nextSerial := store.nextSerial + 1 } item) := by
  simp only [save, EStateM.run_bind, run_checkName]
  cases store.nameFault? user name none <;> rfl

theorem run_writeFields (store : Store) (id : Text) (changes : Assoc Text Text) :
    (writeFields id changes).run store =
      .ok () (store.amend id fun item =>
        changes.foldl (fun item change => item.withField change.1 change.2) item) := by
  induction changes generalizing store with
  | nil =>
      have kept : store.amend id (fun item => item) = store := by simp [amend]
      exact congrArg (EStateM.Result.ok ()) kept.symm
  | cons change rest ih =>
      obtain ⟨field, value⟩ := change
      calc (writeFields id ((field, value) :: rest)).run store
        _ = (writeFields id rest).run (store.amend id (·.withField field value)) := rfl
        _ = .ok () ((store.amend id (·.withField field value)).amend id fun item =>
              rest.foldl (fun item change => item.withField change.1 change.2) item) := ih _
        -- A write leaves the id alone, so that the next one finds the item again.
        _ = _ := by
            rw [amend_amend store id (StoredWildcard.withField_id field value)]
            rfl

theorem run_update (store : Store) (id : Text) (changes : Assoc Text Text) :
    (update id changes).run store =
      match store.get? id with
      | none => .ok none store
      | some item =>
        match store.changeFault? item changes with
        | some fault => .error fault store
        | none =>
          let next := store.amend item.id fun item =>
            changes.foldl (fun item change => item.withField change.1 change.2) item
          .ok (next.get? item.id) next := by
  simp only [update, EStateM.run_bind, EStateM.run_get]
  cases store.get? id with
  | none => rfl
  | some item =>
      simp only [changeFault?]
      cases unknownFields changes with
      | cons field fields => rfl
      | nil =>
          cases changes.get? "name".toList with
          | none => simp only [EStateM.run_bind, EStateM.run_pure, run_writeFields, EStateM.run_get]
          | some name =>
              simp only [EStateM.run_bind, run_checkName]
              cases store.nameFault? item.user name (some item.id) with
              | some fault => rfl
              | none => simp only [run_writeFields, EStateM.run_get, EStateM.run_pure]

theorem run_delete (store : Store) (id : Text) :
    (delete id).run store =
      .ok (store.get? id).isSome
        (if (store.get? id).isSome then { store with items := store.items.filter (·.id != id) }
        else store) := by
  simp only [delete, EStateM.run_bind, EStateM.run_get]
  cases store.get? id <;> rfl

theorem answer_map {α : Type} (action : Action α) (encode : α → Answer) (store : Store) :
    answer (do return encode (← action)) store =
      match action.run store with
      | .ok result next => (encode result, next)
      | .error fault next => (.refused fault, next) := by
  simp only [answer, EStateM.run_bind]
  cases action.run store <;> rfl

end Action

namespace IsSound

variable {store : Store} (sound : store.IsSound)

include sound

/-- An item under the next number goes behind all others. -/
theorem put_next (user name content category : Text) :
    Store.put { store with nextSerial := store.nextSerial + 1 }
        ⟨store.nextSerial, user, name, content, category⟩ =
      store.added user name content category := by
  have absent : Store.get? { store with nextSerial := store.nextSerial + 1 }
      (StoredWildcard.idOf store.nextSerial) = none :=
    get?_eq_none_iff.mpr fun _ member => sound.id_ne_next member
  simp [put, StoredWildcard.id, absent, Store.added]

/-- Step by step an operation comes to the answer and the store that it comes to as a whole. -/
theorem answer_ofOperation (operation : Operation) :
    (Action.ofOperation operation).answer store = store.perform operation := by
  cases operation with
  | save user name content category =>
      rw [Action.ofOperation, Action.answer_map, Action.run_save, perform_save]
      cases store.nameFault? user name none with
      | some fault => rfl
      | none => exact congrArg _ (sound.put_next user name content category)
  | update id changes =>
      rw [Action.ofOperation, Action.answer_map, Action.run_update, perform_update]
      cases found : store.get? id with
      | none => rfl
      | some item =>
          simp only
          cases store.changeFault? item (.ofList changes) with
          | some fault => rfl
          | none =>
              obtain ⟨member, same⟩ := mem_of_get? found
              have written : (store.amend item.id fun item =>
                  (Assoc.ofList changes).foldl (fun item change => item.withField change.1 change.2) item) =
                  store.replaceItem (applyChanges (.ofList changes) item) := by
                simp only [StoredWildcard.foldl_withField (Assoc.nodup_keys_ofList changes)]
                exact sound.amend_eq_replaceItem member rfl
              have again : (store.replaceItem (applyChanges (.ofList changes) item)).get? item.id =
                  some (applyChanges (.ofList changes) item) := get?_replaceItem (same ▸ found)
              simp only [written, again]
  | delete id =>
      rw [Action.ofOperation, Action.answer_map, Action.run_delete, perform_delete]
      cases found : store.get? id with
      | none =>
          rw [filter_of_absent found]
          rfl
      | some item => rfl
  | get id => rfl
  | definitions user => rfl
  | exportYaml user => rfl
  | expand settings user prompt => rfl

theorem action_history (operations : List Operation) :
    Action.history store operations = store.history operations := by
  induction operations generalizing store with
  | nil => rfl
  | cons operation rest ih =>
      simp only [Action.history, history_cons, sound.answer_ofOperation, ih (sound.perform operation)]

end IsSound

end Store

end PromptTemplate
