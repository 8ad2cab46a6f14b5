import PromptTemplate.Store.Operation

set_option autoImplicit false

namespace PromptTemplate

/-- An item with another value of a field. Fields that no update may name are left alone. -/
def StoredWildcard.withField (field value : Text) (item : StoredWildcard) : StoredWildcard :=
  if field = "name".toList then { item with name := value }
  else if field = "content".toList then { item with content := value }
  else if field = "category".toList then { item with category := value }
  else item

namespace Store

def amend (store : Store) (id : Text) (change : StoredWildcard → StoredWildcard) : Store :=
  { store with items := store.items.map fun item => if item.id = id then change item else item }

/-- Puts an item under its id: in the place of the item that has the id, or else behind all others. -/
def put (store : Store) (item : StoredWildcard) : Store :=
  if (store.get? item.id).isSome then store.replaceItem item
  else { store with items := store.items ++ [item] }

/-- Steps on a store that is changed in place. A refusal leaves the store as it is at that step. -/
abbrev Action (α : Type) := EStateM Fault Store α

namespace Action

/-- Refuses a name that a user's item cannot get. -/
def checkName (user name : Text) (except : Option Text) : Action Unit := do
  match (← get).nameFault? user name except with
  | some fault => throw fault
  | none => return

def takeSerial : Action Nat :=
  modifyGet fun store => (store.nextSerial, { store with nextSerial := store.nextSerial + 1 })

/-- Stores a new wildcard. The name is checked before a number is taken. -/
def save (user name content category : Text) : Action StoredWildcard := do
  checkName user name none
  let serial ← takeSerial
  let item : StoredWildcard := ⟨serial, user, name, content, category⟩
  modify (·.put item)
  return item

def writeFields (id : Text) : Assoc Text Text → Action Unit
  | [] => return
  | (field, value) :: rest => do
    modify (·.amend id (·.withField field value))
    writeFields id rest

/-- Changes the item with an id, if there is one. All checks come before the first field is written. -/
def update (id : Text) (changes : Assoc Text Text) : Action (Option StoredWildcard) := do
  match (← get).get? id with
  | none => return none
  | some item =>
    match unknownFields changes with
    | field :: fields => throw (.unknownFields (field :: fields))
    | [] =>
      match changes.get? "name".toList with
      | some name => checkName item.user name (some item.id)
      | none => pure ()
      writeFields item.id changes
      return (← get).get? item.id

/-- Removes the item with an id, and says whether there was one. -/
def delete (id : Text) : Action Bool := do
  match (← get).get? id with
  | none => return false
  | some _ =>
    modify fun store => { store with items := store.items.filter (·.id != id) }
    return true

def ofOperation : Operation → Action Answer
  | .save user name content category => return .saved (← save user name content category)
  | .get id => return .found ((← get).get? id)
  | .update id changes => return .updated (← update id (.ofList changes))
  | .delete id => return .deleted (← delete id)
  | .definitions user => return .definitions ((← get).definitions user)
  | .exportYaml user => return .yaml ((← get).exportYaml user)
  | .expand settings user prompt =>
    return .expansion (PromptTemplate.expand settings ((← get).definitions user).distinct prompt)

def answer (action : Action Answer) (store : Store) : Answer × Store :=
  match action.run store with
  | .ok answer next => (answer, next)
  | .error fault next => (.refused fault, next)

/-- The records of operations that are done step by step, one after the other. -/
def history (store : Store) : List Operation → List Record
  | [] => []
  | operation :: rest =>
    let (answer, next) := (ofOperation operation).answer store
    ⟨store, operation, answer, next⟩ :: history next rest

end Action

end Store

end PromptTemplate
