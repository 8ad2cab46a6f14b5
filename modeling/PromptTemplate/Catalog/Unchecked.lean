import PromptTemplate.Catalog.Basic
import PromptTemplate.Expansion.Basic

set_option autoImplicit false

namespace PromptTemplate

/-- A catalog as it stands, with the names that have an entry that cannot be written. -/
structure UncheckedCatalog where
  catalog : Catalog := []
  unwritable : List Text := []
  deriving DecidableEq, Repr

namespace UncheckedCatalog

/-- Why nothing can be expanded over a value. -/
inductive Fault where
  | notIterable
  | noDefinition
  /-- An entry that cannot be written is needed. -/
  | unwritable
  deriving DecidableEq, Repr

def written : Value → Text
  | .text t => t
  | _ => []

def isWritable : Value → Bool
  | .text _ | .null => true
  | _ => false

/-- What a value is gone through by. An empty value of any kind holds nothing. -/
def contents? (value : Value) : Except Fault (List Value) :=
  if value.isEmpty then .ok []
  else match value.items? with
    | some items => .ok items
    | none => .error .notIterable

def entries? (value : Value) : Except Fault (List Value) :=
  match value with
  | .text content => .ok ((Text.contentLines content).map .text)
  | value => contents? value

/-- Enters the definition of a name. A name that is present keeps the definition that it has. -/
def enter (unchecked : UncheckedCatalog) (name : Text) (items : List Value) : UncheckedCatalog :=
  if unchecked.catalog.any (·.name == name) then unchecked
  else
    { catalog := unchecked.catalog ++ [⟨name, items.map written⟩]
      unwritable :=
        if items.all isWritable then unchecked.unwritable else name :: unchecked.unwritable }

/-- Enters a map from names to entries. -/
def enterPairs (unchecked : UncheckedCatalog) :
    List (Value × Value) → Except Fault UncheckedCatalog
  | [] => .ok unchecked
  | (key, value) :: rest =>
    match entries? value with
    | .error fault => .error fault
    | .ok items => enterPairs (unchecked.enter key.plain items) rest

def enterItems (unchecked : UncheckedCatalog) : List Value → Except Fault UncheckedCatalog
  | [] => .ok unchecked
  | .definition definition :: rest =>
    enterItems (unchecked.enter definition.name (definition.entries.map .text)) rest
  | _ :: _ => .error .noDefinition

def ofValue? (value : Value) : Except Fault UncheckedCatalog :=
  match value with
  | .map pairs => enterPairs {} pairs
  | value =>
    match contents? value with
    | .error fault => .error fault
    | .ok items => enterItems {} items

/-- Whether an outcome would need an entry that cannot be written. -/
def blocks {κ : Type} (unchecked : UncheckedCatalog) (outcome : Outcome κ) : Bool :=
  outcome.isValid && outcome.names.any unchecked.unwritable.contains

/-- Whether an expansion or one of its steps would need an entry that cannot be written. -/
def blocksAny (unchecked : UncheckedCatalog) (expansion : Expansion) : Bool :=
  unchecked.blocks expansion.toOutcome ||
    expansion.steps.any fun step => unchecked.blocks step.outcome

def looksUp : UnitKind → Bool
  | .wildcarded _ _ => true
  | _ => false

def looksUpAny : Kind → Bool
  | .single unit => looksUp unit
  | .chain _ steps => steps.any looksUp

/-- The expansion over a value that is used as a catalog as it stands. What is wrong with the value
matters only if a name is looked up. -/
def expansion? (value : Value) (expand : Catalog → Expansion) : Except Fault Expansion :=
  match ofValue? value with
  | .error fault =>
    let expansion := expand []
    if expansion.kind.any looksUpAny then .error fault else .ok expansion
  | .ok unchecked =>
    let expansion := expand unchecked.catalog
    if unchecked.blocksAny expansion then .error .unwritable else .ok expansion

end UncheckedCatalog

end PromptTemplate
