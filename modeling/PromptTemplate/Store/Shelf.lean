import PromptTemplate.Store.Operation

set_option autoImplicit false

namespace PromptTemplate

/-- A stored wildcard that carries its id with it, whatever it is filed under. -/
structure Card where
  id : Text
  user : Text
  name : Text
  content : Text
  category : Text
  deriving DecidableEq, Repr

def Card.definition (card : Card) : Definition :=
  .ofContent card.name card.content

/-- Cards under keys, and the next serial number. That a card is filed under its own id is no part of the data. -/
structure Shelf where
  cards : Assoc Text Card := []
  nextSerial : Nat := 1
  deriving DecidableEq, Repr

namespace Shelf

open Store (Fault Operation)

variable (shelf : Shelf)

def get? (id : Text) : Option Card :=
  shelf.cards.get? id

def isTaken (user name : Text) (except : Option Text) : Bool :=
  shelf.cards.any fun entry => entry.2.user == user && entry.2.name == name && some entry.2.id != except

def nameFault? (user name : Text) (except : Option Text) : Option Fault :=
  match Name.fault? name with
  | some fault => some (.badName fault)
  | none => if shelf.isTaken user name except then some (.nameTaken name) else none

/-- Files a new card under its id, which comes from the next serial number. -/
def save (user name content category : Text) : Except Fault (Card × Shelf) :=
  match shelf.nameFault? user name none with
  | some fault => .error fault
  | none =>
    let card : Card := ⟨StoredWildcard.idOf shelf.nextSerial, user, name, content, category⟩
    .ok (card, { cards := shelf.cards.insert card.id card, nextSerial := shelf.nextSerial + 1 })

/-- The fault of changes to a card. Its own id is what its new name is checked apart from. -/
def changeFault? (card : Card) (changes : Assoc Text Text) : Option Fault :=
  match Store.unknownFields changes with
  | field :: fields => some (.unknownFields (field :: fields))
  | [] =>
    match changes.get? "name".toList with
    | none => none
    | some name => shelf.nameFault? card.user name (some card.id)

def update (key : Text) (changes : Assoc Text Text) : Except Fault (Option Card × Shelf) :=
  match shelf.get? key with
  | none => .ok (none, shelf)
  | some card =>
    match shelf.changeFault? card changes with
    | some fault => .error fault
    | none =>
      let changed :=
        { card with
          name := (changes.get? "name".toList).getD card.name
          content := (changes.get? "content".toList).getD card.content
          category := (changes.get? "category".toList).getD card.category }
      .ok (some changed, { shelf with cards := shelf.cards.insert key changed })

def delete (key : Text) : Bool × Shelf :=
  ((shelf.get? key).isSome, { shelf with cards := shelf.cards.filter (·.1 != key) })

def definitions (user : Text) : Catalog :=
  ((shelf.cards.map (·.2)).filter (·.user == user)).map Card.definition

def after : Operation → Shelf
  | .save user name content category =>
    match shelf.save user name content category with
    | .ok (_, next) => next
    | .error _ => shelf
  | .update id changes =>
    match shelf.update id (.ofList changes) with
    | .ok (_, next) => next
    | .error _ => shelf
  | .delete id => (shelf.delete id).2
  | .get _ | .definitions _ | .exportYaml _ | .expand _ _ _ => shelf

def final (operations : List Operation) : Shelf :=
  operations.foldl after shelf

end Shelf

end PromptTemplate
