import PromptTemplate.Value.Basic

set_option autoImplicit false

namespace PromptTemplate.Yaml

/-- What a node stands for. -/
inductive Cell where
  | plain (value : Value)
  | list (items : List Nat)
  | map (entries : List (Value × Nat))
  | set (items : List Value)
  /-- A list of pairs. -/
  | pairs (entries : List (Nat × Nat))

/-- What the nodes of a document stand for, and the number of the root. -/
structure Document where
  cells : Array Cell
  root : Nat

namespace Document

def empty : Document :=
  { cells := #[.plain .null], root := 0 }

def cell (document : Document) (id : Nat) : Cell :=
  document.cells.getD id (.plain .null)

/-- The number of the node under a text key, if the node is a map. -/
def lookup? (document : Document) (id : Nat) (key : Text) : Option Nat :=
  match document.cell id with
  | .map entries => Assoc.find? Value.sameKey entries (.text key)
  | _ => none

/-- A collection: that of a node, or one of the pairs of a node. -/
structure Site where
  id : Nat
  pair : Option Nat := none
  deriving DecidableEq, Repr

/-- The values of nodes that lie inside themselves nowhere, as far as they are known. -/
abbrev Known := Array (Option Value)

/-- A value, and whether nothing in it is only hinted at. -/
structure Unfolded where
  value : Value
  isWhole : Bool

def gather (parts : List Unfolded) (build : List Value → Value) : Unfolded :=
  ⟨build (parts.map (·.value)), parts.all (·.isWhole)⟩

mutual

/-- The value of a node; the path holds the collections around it. -/
def unfold (document : Document) : Nat → List Site → Nat → StateM Known Unfolded
  | 0, _, _ => return ⟨.null, false⟩
  | fuel + 1, path, id => do
    if let some value := (← get).getD id none then return ⟨value, true⟩
    let site : Site := { id }
    let found ← match document.cell id with
      | .plain value => pure ⟨value, true⟩
      | .set items => pure ⟨.set items, true⟩
      | .list items =>
        if path.contains site then pure ⟨.again .list, false⟩
        else do
          let parts ← items.mapM (unfold document fuel (site :: path))
          pure (gather parts .list)
      | .map entries =>
        if path.contains site then pure ⟨.again .map, false⟩
        else do
          let parts ← entries.mapM fun entry => unfold document fuel (site :: path) entry.2
          pure (gather parts fun values => .map ((entries.map (·.1)).zip values))
      | .pairs entries =>
        if path.contains site then pure ⟨.again .list, false⟩
        else do
          let parts ← (entries.zipIdx).mapM fun (pair, index) =>
            unfoldPair document fuel (site :: path) id index pair
          pure (gather parts .list)
    if found.isWhole then modify fun known => known.setIfInBounds id (some found.value)
    return found

def unfoldPair (document : Document) :
    Nat → List Site → Nat → Nat → Nat × Nat → StateM Known Unfolded
  | 0, _, _, _, _ => return ⟨.null, false⟩
  | fuel + 1, path, id, index, (first, second) => do
    let site : Site := { id, pair := some index }
    if path.contains site then return ⟨.again .tuple, false⟩
    let first ← unfold document fuel (site :: path) first
    let second ← unfold document fuel (site :: path) second
    return gather [first, second] .tuple

end

/-- Enough steps for every unfolding: no collection is unfolded inside itself. -/
def depth (document : Document) : Nat :=
  4 * document.cells.size + 4

def unknown (document : Document) : Known :=
  Array.replicate document.cells.size none

/-- The values of nodes, each unfolded from itself on. -/
def values (document : Document) (ids : List Nat) : List Value :=
  let unfoldings := ids.mapM fun id => unfold document document.depth [] id
  (unfoldings.run document.unknown).1.map (·.value)

def value (document : Document) (id : Nat) : Value :=
  ((unfold document document.depth [] id).run document.unknown).1.value

/-- The value of a node whose parts are each unfolded from themselves on. -/
def opened (document : Document) (id : Nat) : Value :=
  match document.cell id with
  | .plain value => value
  | .set items => .set items
  | .list items => .list (document.values items)
  | .map entries => .map ((entries.map (·.1)).zip (document.values (entries.map (·.2))))
  | .pairs entries =>
    let unfoldings := (entries.zipIdx).mapM fun (pair, index) =>
      unfoldPair document document.depth [] id index pair
    .list ((unfoldings.run document.unknown).1.map (·.value))

end Document

end PromptTemplate.Yaml
