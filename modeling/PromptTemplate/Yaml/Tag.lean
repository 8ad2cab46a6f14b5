import PromptTemplate.Text.Basic

set_option autoImplicit false

namespace PromptTemplate.Yaml

/-- The type of a node. -/
inductive Tag where
  | null
  | bool
  | int
  | float
  | text
  | binary
  | timestamp
  | sequence
  | mapping
  | set
  | orderedMap
  | pairs
  /-- The key that brings in the entries of other mappings. -/
  | merge
  /-- The key whose value stands for the mapping. -/
  | equals
  | other (name : Text)
  deriving DecidableEq, Repr

namespace Tag

def standardStart : Text :=
  "tag:yaml.org,2002:".toList

/-- The standard types with the ends of their names. -/
def standard : List (String × Tag) :=
  [("null", .null), ("bool", .bool), ("int", .int), ("float", .float), ("str", .text),
    ("binary", .binary), ("timestamp", .timestamp), ("seq", .sequence), ("map", .mapping),
    ("set", .set), ("omap", .orderedMap), ("pairs", .pairs), ("merge", .merge), ("value", .equals)]

def ofName (name : Text) : Tag :=
  match standard.find? fun entry => standardStart ++ entry.1.toList == name with
  | some (_, tag) => tag
  | none => .other name

def name : Tag → Text
  | .other name => name
  | tag =>
    match standard.find? (·.2 == tag) with
    | some (ending, _) => standardStart ++ ending.toList
    | none => standardStart

end Tag

end PromptTemplate.Yaml
