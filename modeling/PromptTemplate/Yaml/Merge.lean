import PromptTemplate.Yaml.Node.Basic

set_option autoImplicit false

namespace PromptTemplate.Yaml.Graph

/-- The entries of a node, if it is a mapping. -/
def pairs (graph : Graph) (id : Nat) : List (Nat × Nat) :=
  match (graph.node id).form with
  | .mapping pairs => pairs
  | _ => []

def setPairs (graph : Graph) (id : Nat) (pairs : List (Nat × Nat)) : Graph :=
  graph.update id fun node => { node with form := .mapping pairs }

def hasKey (graph : Graph) (tag : Tag) (pair : Nat × Nat) : Bool :=
  (graph.node pair.1).tag == tag

/-- Takes the first merge key out of a mapping, and gives the node that it brings in. -/
def takeMerge? (graph : Graph) (id : Nat) : Option (Nat × Graph) :=
  let pairs := graph.pairs id
  match pairs.dropWhile (!graph.hasKey .merge ·) with
  | [] => none
  | (_, source) :: rest =>
    some (source, graph.setPairs id (pairs.takeWhile (!graph.hasKey .merge ·) ++ rest))

/-- Makes a key whose value stands for the mapping an ordinary text. -/
def spellEquals (graph : Graph) (id : Nat) : Graph :=
  let keys := ((graph.pairs id).filter (graph.hasKey .equals)).map (·.1)
  keys.foldl (fun graph key => graph.update key fun node => { node with tag := .text }) graph

/-- The number of merge keys in all mappings. -/
def mergeCount (graph : Graph) : Nat :=
  (graph.nodes.map fun node => match node.form with
    | .mapping pairs => (pairs.filter (graph.hasKey .merge)).length
    | _ => 0).foldl (· + ·) 0

/-- Complains about a node that cannot be brought into a mapping. -/
def refuseMerge {α : Type} (graph : Graph) (id source : Nat) (what : String) : Except Fault α :=
  let found := graph.node source
  refuse .mapping (graph.node id).start (.expectedForm what found.form.name) found.start

mutual

/-- Brings in the entries for all merge keys of a mapping, in front of which those stand that are brought in
already. -/
def merge : Nat → Nat → List (Nat × Nat) → Graph → Except Fault Graph
  | 0, _, _, _ => .error .tooDeep
  | fuel + 1, id, brought, graph =>
    match graph.takeMerge? id with
    | none =>
      let own := graph.pairs id
      .ok (spellEquals (if brought.isEmpty then graph else graph.setPairs id (brought ++ own)) id)
    | some (source, graph) =>
      match (graph.node source).form with
      | .mapping _ => do
        let graph ← merge fuel source [] graph
        merge fuel id (brought ++ graph.pairs source) graph
      | .sequence sources => do
        let (groups, graph) ← mergeEach fuel id sources graph
        merge fuel id (brought ++ groups.reverse.flatten) graph
      | .scalar _ => graph.refuseMerge id source "a mapping or list of mappings for merging"

/-- Merges each of some mappings, and gives their entries. -/
def mergeEach : Nat → Nat → List Nat → Graph → Except Fault (List (List (Nat × Nat)) × Graph)
  | _, _, [], graph => .ok ([], graph)
  | 0, _, _, _ => .error .tooDeep
  | fuel + 1, id, source :: rest, graph =>
    match (graph.node source).form with
    | .mapping _ => do
      let graph ← merge fuel source [] graph
      let found := graph.pairs source
      let (groups, graph) ← mergeEach fuel id rest graph
      return (found :: groups, graph)
    | _ => graph.refuseMerge id source "a mapping for merging"

end

/-- The graph in which a mapping has no merge keys any more. -/
def flatten (graph : Graph) (id : Nat) : Except Fault Graph :=
  merge (2 * graph.mergeCount + graph.nodes.size + 1) id [] graph

end PromptTemplate.Yaml.Graph
