import PromptTemplate.Catalog.Basic
import PromptTemplate.Catalog.Name
import PromptTemplate.Yaml.Printer

set_option autoImplicit false

namespace PromptTemplate

structure StoredWildcard where
  serial : Nat
  user : Text
  name : Text
  content : Text
  category : Text
  deriving DecidableEq, Repr

namespace StoredWildcard

def idOf (serial : Nat) : Text :=
  "wc_".toList ++ Text.ofNat serial

def id (item : StoredWildcard) : Text :=
  idOf item.serial

def definition (item : StoredWildcard) : Definition :=
  .ofContent item.name item.content

end StoredWildcard

/-- Stored wildcards in the order of their creation, and the next serial number. -/
structure Store where
  items : List StoredWildcard := []
  nextSerial : Nat := 1
  deriving DecidableEq, Repr

namespace Store

/-- The category of an item that is given none. -/
def standardCategory : Text := "general".toList

/-- Why an operation on a store is refused. -/
inductive Fault where
  | badName (fault : Name.Fault)
  | nameTaken (name : Text)
  | unknownFields (fields : List Text)
  deriving DecidableEq, Repr

def Fault.message : Fault → String
  | .badName fault => fault.message
  | .nameTaken name => "wild card '" ++ String.ofList name ++ "' already exists"
  | .unknownFields fields =>
    "cannot update fields: " ++ String.ofList (Value.quoted (.list (fields.map .text)))

def get? (store : Store) (id : Text) : Option StoredWildcard :=
  store.items.find? (·.id == id)

/-- Whether a user has an item of a name, apart from the item with a given id. -/
def isTaken (store : Store) (user name : Text) (except : Option Text) : Bool :=
  store.items.any fun item => item.user == user && item.name == name && some item.id != except

/-- The fault of a name that a user's item should get. -/
def nameFault? (store : Store) (user name : Text) (except : Option Text) : Option Fault :=
  match Name.fault? name with
  | some fault => some (.badName fault)
  | none => if store.isTaken user name except then some (.nameTaken name) else none

def save (store : Store) (user name content : Text) (category : Text := standardCategory) :
    Except Fault (StoredWildcard × Store) :=
  match store.nameFault? user name none with
  | some fault => .error fault
  | none =>
    let item : StoredWildcard := ⟨store.nextSerial, user, name, content, category⟩
    .ok (item, { items := store.items ++ [item], nextSerial := store.nextSerial + 1 })

def mutableFields : List Text :=
  ["name", "content", "category"].map String.toList

/-- The fields of changes that no update may name, in order. -/
def unknownFields (changes : Assoc Text Text) : List Text :=
  ((changes.map (·.1)).filter (!mutableFields.contains ·)).mergeSort Text.precedes

def applyChanges (changes : Assoc Text Text) (item : StoredWildcard) : StoredWildcard :=
  { item with
    name := (changes.get? "name".toList).getD item.name
    content := (changes.get? "content".toList).getD item.content
    category := (changes.get? "category".toList).getD item.category }

def replaceItem (store : Store) (item : StoredWildcard) : Store :=
  { store with items := store.items.map fun present => if present.id == item.id then item else present }

def update (store : Store) (id : Text) (changes : Assoc Text Text) :
    Except Fault (Option StoredWildcard × Store) :=
  match store.get? id with
  | none => .ok (none, store)
  | some item =>
    match unknownFields changes with
    | field :: fields => .error (.unknownFields (field :: fields))
    | [] =>
      let fault? := match changes.get? "name".toList with
        | none => none
        | some name => store.nameFault? item.user name (some item.id)
      match fault? with
      | some fault => .error fault
      | none =>
        let changed := applyChanges changes item
        .ok (some changed, store.replaceItem changed)

/-- Removes the item with an id, and says whether there was one. -/
def delete (store : Store) (id : Text) : Bool × Store :=
  ((store.get? id).isSome, { store with items := store.items.filter (·.id != id) })

def definitions (store : Store) (user : Text) : Catalog :=
  (store.items.filter (·.user == user)).map StoredWildcard.definition

def document (catalog : Catalog) : Value :=
  let pairs := catalog.map fun definition =>
    (Value.text definition.name, Value.list (definition.entries.map .text))
  .map [(.text "wildcards".toList, .map (Assoc.ofListBy Value.sameKey pairs))]

def exportYaml (store : Store) (user : Text) (print : Value → Text := Yaml.print) : Text :=
  print (document (store.definitions user))

end Store

end PromptTemplate
