import PromptTemplate.Text.Basic
import PromptTemplate.Value.Printer
import PromptTemplate.Value.Writing

set_option autoImplicit false

namespace PromptTemplate

/-- The definition whose entries are the content lines of a block of text. -/
def Definition.ofContent (name content : Text) : Definition :=
  ⟨name, Text.contentLines content⟩

/-- Definitions in order; of several definitions of one name the first counts. -/
abbrev Catalog := List Definition

namespace Catalog

/-- The entries of the first definition of a name. A name without a definition has none. -/
def entries (catalog : Catalog) (name : Text) : List Text :=
  match catalog.find? (·.name == name) with
  | some definition => definition.entries
  | none => []

def distinctAfter (seen : List Text) : Catalog → Catalog
  | [] => []
  | definition :: rest =>
    if seen.contains definition.name then distinctAfter seen rest
    else definition :: distinctAfter (definition.name :: seen) rest

/-- The catalog with the first definition of each name. -/
def distinct (catalog : Catalog) : Catalog :=
  distinctAfter [] catalog

/-- Why a value is no catalog. -/
inductive Fault where
  | noEntries (name : Text)
  | noDefinition (value : Value)
  | notIterable

/-- The words for a fault, if it is reported in words. -/
def Fault.message? : Fault → Option String
  | .noEntries name =>
    some ("wild card '" ++ String.ofList name ++ "' must be a list or a block of lines")
  | .noDefinition value => some ("not a WildcardDefinition: " ++ String.ofList value.quoted)
  | .notIterable => none

/-- The plain texts of values, trimmed, without the blank ones. -/
def entryTexts (items : List Value) : List Text :=
  Text.tidied (items.map Value.plain)

/-- The definition of a name by a value: a block of lines, nothing, or items to go through. -/
def definition? (name : Text) (value : Value) : Except Fault Definition :=
  match value with
  | .text content => .ok (.ofContent name content)
  | .null => .ok ⟨name, []⟩
  | value =>
    match value.items? with
    | some items => .ok ⟨name, entryTexts items⟩
    | none => .error (.noEntries name)

/-- The definitions of a map from names to entries. -/
def ofPairs? : List (Value × Value) → Except Fault Catalog
  | [] => .ok []
  | (key, value) :: rest =>
    match definition? key.plain value with
    | .error fault => .error fault
    | .ok definition => (ofPairs? rest).map (definition :: ·)

def ofItems? : List Value → Except Fault Catalog
  | [] => .ok []
  | .definition definition :: rest => (ofItems? rest).map (definition :: ·)
  | item :: _ => .error (.noDefinition item)

/-- The catalog that a value describes: a map from names to entries, or definitions to go through. -/
def ofValue? (value : Value) : Except Fault Catalog :=
  match value with
  | .null => .ok []
  | .map pairs => (ofPairs? pairs).map distinct
  | value =>
    match value.items? with
    | some items => (ofItems? items).map distinct
    | none => .error .notIterable

section

def Fault.shown : Fault → List Value
  | .noDefinition value => [value]
  | .noEntries _ | .notIterable => []

variable (room : Nat)

/-- The definition of a name by a value. The name is written, and then each entry. -/
def readDefinition (key value : Value) : Except (Failure Fault) Definition := do
  written room key
  let definition ← stated room Fault.shown (definition? key.plain value)
  (value.items?.getD []).forM (written room)
  return definition

/-- The definitions of a map from names to entries. -/
def readPairs : List (Value × Value) → Except (Failure Fault) Catalog
  | [] => return []
  | (key, value) :: rest => return (← readDefinition room key value) :: (← readPairs rest)

/-- The catalog that a value describes, with names, entries and complaints written as they come up. -/
def read : Value → Except (Failure Fault) Catalog
  | .map pairs => return distinct (← readPairs room pairs)
  | value => stated room Fault.shown (ofValue? value)

end

end Catalog

end PromptTemplate
