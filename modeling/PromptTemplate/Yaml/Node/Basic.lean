import PromptTemplate.Yaml.Fault
import PromptTemplate.Yaml.Tag

set_option autoImplicit false

namespace PromptTemplate.Yaml

/-- The form of a node, with the numbers of its parts. -/
inductive Form where
  | scalar (text : Text)
  | sequence (items : List Nat)
  | mapping (pairs : List (Nat × Nat))
  deriving DecidableEq, Repr

def Form.name : Form → String
  | .scalar _ => "scalar"
  | .sequence _ => "sequence"
  | .mapping _ => "mapping"

structure Node where
  tag : Tag
  form : Form
  start : Mark
  deriving DecidableEq, Repr

def Node.empty (place : Mark) : Node :=
  { tag := .null, form := .scalar [], start := place }

/-- The nodes of a document by their numbers. -/
structure Graph where
  nodes : Array Node := #[]
  deriving DecidableEq, Repr

namespace Graph

def node (graph : Graph) (id : Nat) : Node :=
  graph.nodes.getD id (Node.empty ⟨0, 0⟩)

/-- Adds a node, which gets the next number. -/
def add (graph : Graph) (node : Node) : Nat × Graph :=
  (graph.nodes.size, { nodes := graph.nodes.push node })

def update (graph : Graph) (id : Nat) (change : Node → Node) : Graph :=
  { nodes := graph.nodes.modify id change }

end Graph

end PromptTemplate.Yaml
