import PromptTemplate.Decimal.Layout
import PromptTemplate.Text.Printable
import PromptTemplate.Value.Basic

set_option autoImplicit false

namespace PromptTemplate.Value

/-- A definition as an expression; a single entry is followed by a comma. -/
def definitionText (d : Definition) : Text :=
  let entries := match d.entries with
    | [entry] => '(' :: Text.quoted entry ++ ",)".toList
    | entries => '(' :: Text.join ", ".toList (entries.map Text.quoted) ++ [')']
  "WildcardDefinition(name=".toList ++ Text.quoted d.name ++ ", entries=".toList ++ entries ++ [')']

mutual

def quoted : Value → Text
  | .null => "None".toList
  | .bool b => if b then "True".toList else "False".toList
  | .int n => Text.ofInt n
  | .float x => Decimal.plain.render x
  | .text t => Text.quoted t
  | .timestamp moment => moment.expression
  | .list items => '[' :: quotedItems items ++ [']']
  | .map entries => '{' :: quotedEntries entries ++ ['}']
  | .set [] => "set()".toList
  | .set items => '{' :: quotedItems items ++ ['}']
  | .tuple [item] => '(' :: quoted item ++ ",)".toList
  | .tuple items => '(' :: quotedItems items ++ [')']
  | .bytes codes => Codes.toText (Codes.quotedBytes codes)
  | .again .list => "[...]".toList
  | .again .map => '{' :: "...".toList ++ ['}']
  | .again .tuple => "(...)".toList
  | .definition d => definitionText d

/-- Items with a comma and a space between neighbours. -/
def quotedItems : List Value → Text
  | [] => []
  | [item] => quoted item
  | item :: rest => quoted item ++ ", ".toList ++ quotedItems rest

/-- Entries with a colon behind the key and a comma between neighbours. -/
def quotedEntries : List (Value × Value) → Text
  | [] => []
  | [(key, value)] => quoted key ++ ": ".toList ++ quoted value
  | (key, value) :: rest =>
    quoted key ++ ": ".toList ++ quoted value ++ ", ".toList ++ quotedEntries rest

end

def plain : Value → Text
  | .text t => t
  | .timestamp moment => moment.plain
  | value => quoted value

end PromptTemplate.Value
