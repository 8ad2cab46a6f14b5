import PromptTemplate.Value.SetOrder
import PromptTemplate.Yaml.Document
import PromptTemplate.Yaml.Merge
import PromptTemplate.Yaml.Node.Composition
import PromptTemplate.Yaml.Scalar

set_option autoImplicit false

namespace PromptTemplate.Yaml

/-- The nodes of a document, what they stand for as far as they are opened, and the collections that are
still to be filled, the last one first. -/
structure Builder where
  graph : Graph
  /-- The order in which the values of a set are gone through. -/
  order : List Value → List Value
  cells : Array (Option Cell)
  waiting : List Nat := []

/-- Steps that find out what nodes stand for. -/
abbrev Building := StateT Builder (Except Fault)

namespace Building

def nodeOf (id : Nat) : Building Node := do
  return (← get).graph.node id

def write (id : Nat) (cell : Cell) : Building Unit :=
  modify fun builder => { builder with cells := builder.cells.setIfInBounds id (some cell) }

/-- The text of a scalar. For a mapping the value under the key that stands for the mapping is taken. -/
def textOf (graph : Graph) : Nat → Nat → Except Fault Text
  | 0, _ => .error .tooDeep
  | fuel + 1, id =>
    let node := graph.node id
    match node.form with
    | .scalar text => .ok text
    | .sequence _ => refuseAt (.expectedForm "a scalar node" node.form.name) node.start
    | .mapping pairs =>
      match pairs.find? (graph.hasKey .equals) with
      | some (_, held) => textOf graph fuel held
      | none => refuseAt (.expectedForm "a scalar node" node.form.name) node.start

def scalarText (id : Nat) : Building Text := do
  let graph := (← get).graph
  textOf graph (graph.nodes.size + 1) id

/-- The moment that a node spells. Only a scalar can spell one. -/
def momentOf (node : Node) (text : Text) : Except Fault Timestamp :=
  match node.form with
  | .scalar _ => Scalar.timestamp text
  | _ => .error .noSpelling

def openScalar (id : Nat) (valueOf : Text → Except Fault Value) : Building Cell := do
  let value ← valueOf (← scalarText id)
  write id (.plain value)
  return .plain value

/-- Opens a collection, which is empty until it is filled. -/
def openCollection (id : Nat) (cell : Cell) : Building Cell := do
  write id cell
  modify fun builder => { builder with waiting := id :: builder.waiting }
  return cell

def openNode (id : Nat) : Building Cell := do
  if let some cell := (← get).cells.getD id none then return cell
  let node ← nodeOf id
  match node.tag with
  | .null => openScalar id fun _ => .ok .null
  | .bool => openScalar id fun text => (Scalar.bool text).map .bool
  | .int => openScalar id fun text => (Scalar.int text).map .int
  | .float => openScalar id fun text => (Scalar.float text).map .float
  | .text => openScalar id fun text => .ok (.text text)
  | .binary => openScalar id fun text => (Scalar.binary node.start text).map .bytes
  | .timestamp => openScalar id fun text => (momentOf node text).map .timestamp
  | .sequence => openCollection id (.list [])
  | .mapping => openCollection id (.map [])
  | .set => openCollection id (.set [])
  | .orderedMap | .pairs => openCollection id (.pairs [])
  | .merge | .equals | .other _ => refuseAt (.unknownTag node.tag.name) node.start

/-- A key of a mapping. A number that is not even the same as itself is told apart by the node that it
comes from, unless it is spelled in the common way. -/
structure Key where
  value : Value
  source : Option Nat

def Key.same (a b : Key) : Bool :=
  Value.sameKey a.value b.value ||
    match a.value, b.value with
    | .float x, .float y => x.isNaN && y.isNaN && a.source == b.source
    | _, _ => false

/-- The key that a node stands for, in a mapping that starts at a mark. Collections are no keys. -/
def keyOf (since : Mark) (id : Nat) : Building Key := do
  match ← openNode id with
  | .plain value =>
    let text ← scalarText id
    return { value, source := if Scalar.isNotANumber text then none else some id }
  | _ => refuse .mapping since .unhashableKey (← nodeOf id).start

/-- The entries of a mapping, without merge keys. -/
def entriesOf (id : Nat) : Building (List (Value × Nat)) := do
  let graph ← (← get).graph.flatten id
  modify fun builder => { builder with graph }
  let entries ← (graph.pairs id).mapM fun (key, held) => do
    let key ← keyOf (graph.node id).start key
    let _ ← openNode held
    return (key, held)
  return (Assoc.ofListBy Key.same entries).map fun (key, held) => (key.value, held)

def refuseForm {α : Type} (node : Node) (what : String) : Building α :=
  refuseAt (.expectedForm what node.form.name) node.start

/-- The single entry of a node of a list of pairs. -/
def pairOf (activity : Activity) (since : Mark) (id : Nat) : Building (Nat × Nat) := do
  let node ← nodeOf id
  match node.form with
  | .mapping [(key, held)] =>
    let _ ← openNode key
    let _ ← openNode held
    return (key, held)
  | .mapping pairs => refuse activity since (.severalEntries pairs.length) node.start
  | form => refuse activity since (.expectedForm "a mapping of length 1" form.name) node.start

def fillPairs (activity : Activity) (id : Nat) (node : Node) : Building Unit := do
  match node.form with
  | .sequence items => write id (.pairs (← items.mapM (pairOf activity node.start)))
  | form => refuse activity node.start (.expectedForm "a sequence" form.name) node.start

def fill (id : Nat) : Building Unit := do
  let node ← nodeOf id
  match node.tag, node.form with
  | .sequence, .sequence items =>
    for item in items do let _ ← openNode item
    write id (.list items)
  | .sequence, _ => refuseForm node "a sequence node"
  | .mapping, .mapping _ => write id (.map (← entriesOf id))
  | .mapping, _ => refuseForm node "a mapping node"
  | .set, .mapping _ =>
    let items := (← entriesOf id).map (·.1)
    write id (.set ((← get).order items))
  | .set, _ => refuseForm node "a mapping node"
  | .orderedMap, _ => fillPairs .orderedMap id node
  | .pairs, _ => fillPairs .pairs id node
  | _, _ => return

/-- Fills collections in rounds: those that are opened in a round are filled in the next one. Every round
opens nodes that were not open before. -/
def fillAll : Nat → Building Unit
  | 0 => return
  | rounds + 1 => do
    let ids := (← get).waiting.reverse
    if ids.isEmpty then return
    modify fun builder => { builder with waiting := [] }
    for id in ids do fill id
    fillAll rounds

/-- Finds out what all nodes from a root on stand for. -/
def ofRoot (root : Nat) : Building Unit := do
  let _ ← openNode root
  fillAll ((← get).graph.nodes.size + 1)

end Building

def Document.ofGraph (order : List Value → List Value) (graph : Graph) (root : Nat) : Except Fault Document := do
  let cells := Array.replicate graph.nodes.size none
  let (_, builder) ← (Building.ofRoot root).run { graph, order, cells }
  return { cells := builder.cells.map (·.getD (.plain .null)), root }

/-- What reading depends on beside the text: how deep nodes may lie inside nodes, and the order in which the values of
a set are gone through. Neither is the same on every machine. -/
structure Machine where
  room : Nat := 490
  order : List Value → List Value := Value.setOrder

def Machine.read (machine : Machine) (text : Text) : Except Fault Document := do
  match ← Graph.ofLexemes machine.room (Token.ofText text) with
  | (none, _) => return .empty
  | (some root, graph) => Document.ofGraph machine.order graph root

abbrev Reader := Text → Except Fault Document

def read : Reader :=
  ({} : Machine).read

end PromptTemplate.Yaml
