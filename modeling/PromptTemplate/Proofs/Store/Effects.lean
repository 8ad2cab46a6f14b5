import PromptTemplate.Proofs.Store.Lookup

set_option autoImplicit false

namespace PromptTemplate.Store

/-- The store with one more item, which takes the next number. -/
def added (store : Store) (user name content category : Text) : Store :=
  { items := store.items ++ [⟨store.nextSerial, user, name, content, category⟩]
    nextSerial := store.nextSerial + 1 }

/-- The fault of changes to an item: fields that no update may name, or a name that the item cannot get. -/
def changeFault? (store : Store) (item : StoredWildcard) (changes : Assoc Text Text) : Option Fault :=
  match unknownFields changes with
  | field :: fields => some (.unknownFields (field :: fields))
  | [] =>
    match changes.get? "name".toList with
    | none => none
    | some name => store.nameFault? item.user name (some item.id)

section

variable (store : Store)

theorem replaceItem_items (changed : StoredWildcard) :
    (store.replaceItem changed).items =
      store.items.map fun present => if present.id = changed.id then changed else present := by
  simp [replaceItem]

@[simp] theorem map_id_replaceItem (changed : StoredWildcard) :
    (store.replaceItem changed).items.map (·.id) = store.items.map (·.id) := by
  rw [replaceItem_items, List.map_map]
  apply List.map_congr_left
  intro present _
  simp only [Function.comp_apply]
  split
  · next same => exact same.symm
  · rfl

theorem perform_save (user name content category : Text) :
    store.perform (.save user name content category) =
      match store.nameFault? user name none with
      | some fault => (.refused fault, store)
      | none => (.saved ⟨store.nextSerial, user, name, content, category⟩,
          store.added user name content category) := by
  rw [perform, save]
  cases store.nameFault? user name none <;> rfl

theorem perform_update (id : Text) (changes : List (Text × Text)) :
    store.perform (.update id changes) =
      match store.get? id with
      | none => (.updated none, store)
      | some item =>
        match store.changeFault? item (.ofList changes) with
        | some fault => (.refused fault, store)
        | none => (.updated (some (applyChanges (.ofList changes) item)),
            store.replaceItem (applyChanges (.ofList changes) item)) := by
  rw [perform, update]
  cases store.get? id with
  | none => rfl
  | some item =>
      simp only [changeFault?]
      cases unknownFields (.ofList changes) with
      | cons field fields => rfl
      | nil =>
          cases Assoc.get? (.ofList changes) "name".toList with
          | none => rfl
          | some name => cases fault : store.nameFault? item.user name (some item.id) <;> simp [fault, settle]

variable {store} in
/-- Nothing is taken away under an id that no item has. -/
theorem filter_of_absent {id : Text} (absent : store.get? id = none) :
    store.items.filter (·.id != id) = store.items :=
  List.filter_eq_self.mpr fun item member => by simpa using get?_eq_none_iff.mp absent item member

theorem perform_delete (id : Text) :
    store.perform (.delete id) =
      (.deleted (store.get? id).isSome, { store with items := store.items.filter (·.id != id) }) := rfl

end

inductive Effect (store : Store) : Operation → Answer → Store → Prop
  | created {user name content category : Text} (free : store.nameFault? user name none = none) :
      Effect store (.save user name content category)
        (.saved ⟨store.nextSerial, user, name, content, category⟩)
        (store.added user name content category)
  | changed {id : Text} {changes : List (Text × Text)} {item : StoredWildcard}
      (found : store.get? id = some item) (fit : store.changeFault? item (.ofList changes) = none) :
      Effect store (.update id changes) (.updated (some (applyChanges (.ofList changes) item)))
        (store.replaceItem (applyChanges (.ofList changes) item))
  | removed {id : Text} {item : StoredWildcard} (found : store.get? id = some item) :
      Effect store (.delete id) (.deleted true)
        { store with items := store.items.filter (·.id != id) }
  | idle {operation : Operation} {answer : Answer} (unsaved : answer.saved? = none) :
      Effect store operation answer store

theorem perform_effect (store : Store) (operation : Operation) :
    Effect store operation (store.perform operation).1 (store.perform operation).2 := by
  cases operation with
  | save user name content category =>
      rw [perform_save]
      cases free : store.nameFault? user name none with
      | some fault => exact .idle rfl
      | none => exact .created free
  | update id changes =>
      rw [perform_update]
      cases found : store.get? id with
      | none => exact .idle rfl
      | some item =>
          simp only
          cases fit : store.changeFault? item (.ofList changes) with
          | some fault => exact .idle rfl
          | none => exact .changed found fit
  | delete id =>
      rw [perform_delete]
      cases found : store.get? id with
      | none =>
          rw [filter_of_absent found]
          exact .idle rfl
      | some item => exact .removed found
  | get id => exact .idle rfl
  | definitions user => exact .idle rfl
  | exportYaml user => exact .idle rfl
  | expand settings user prompt => exact .idle rfl

end PromptTemplate.Store
