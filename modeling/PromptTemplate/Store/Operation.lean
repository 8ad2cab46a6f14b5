import PromptTemplate.Expansion.Expand
import PromptTemplate.Store

set_option autoImplicit false

namespace PromptTemplate.Store

inductive Operation where
  | save (user name content category : Text)
  | get (id : Text)
  | update (id : Text) (changes : List (Text × Text))
  | delete (id : Text)
  | definitions (user : Text)
  | exportYaml (user : Text)
  /-- Expands a prompt over the definitions of a user. -/
  | expand (settings : Settings) (user prompt : Text)

inductive Answer where
  | refused (fault : Fault)
  | saved (item : StoredWildcard)
  | found (item? : Option StoredWildcard)
  | updated (item? : Option StoredWildcard)
  | deleted (wasThere : Bool)
  | definitions (catalog : Catalog)
  | yaml (text : Text)
  | expansion (expansion : Expansion)
  deriving DecidableEq

/-- Whether an operation was refused or found nothing to change. -/
def Answer.isFailure : Answer → Bool
  | .refused _ | .updated none | .deleted false => true
  | _ => false

def Answer.saved? : Answer → Option StoredWildcard
  | .saved item => some item
  | _ => none

def settle {α : Type} (store : Store) (encode : α → Answer) :
    Except Fault (α × Store) → Answer × Store
  | .ok (result, next) => (encode result, next)
  | .error fault => (.refused fault, store)

def perform (store : Store) : Operation → Answer × Store
  | .save user name content category => store.settle .saved (store.save user name content category)
  | .get id => (.found (store.get? id), store)
  | .update id changes => store.settle .updated (store.update id (.ofList changes))
  | .delete id => (.deleted (store.delete id).1, (store.delete id).2)
  | .definitions user => (.definitions (store.definitions user), store)
  | .exportYaml user => (.yaml (store.exportYaml user), store)
  | .expand settings user prompt =>
    (.expansion (PromptTemplate.expand settings (store.definitions user).distinct prompt), store)

/-- An operation with its answer, and the stores in front of it and behind it. -/
structure Record where
  before : Store
  operation : Operation
  answer : Answer
  after : Store

def history (store : Store) : List Operation → List Record
  | [] => []
  | operation :: rest =>
    let (answer, next) := store.perform operation
    ⟨store, operation, answer, next⟩ :: history next rest

def final (store : Store) (operations : List Operation) : Store :=
  operations.foldl (fun store operation => (store.perform operation).2) store

@[simp] theorem history_cons (store : Store) (operation : Operation) (rest : List Operation) :
    store.history (operation :: rest) =
      ⟨store, operation, (store.perform operation).1, (store.perform operation).2⟩ ::
        (store.perform operation).2.history rest := rfl

@[simp] theorem final_cons (store : Store) (operation : Operation) (rest : List Operation) :
    store.final (operation :: rest) = (store.perform operation).2.final rest := rfl

theorem final_append (store : Store) (first second : List Operation) :
    store.final (first ++ second) = (store.final first).final second :=
  List.foldl_append

end PromptTemplate.Store
