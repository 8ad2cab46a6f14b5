import PromptTemplate.Assoc
import PromptTemplate.Codes.Basic
import PromptTemplate.Decimal.Binary
import PromptTemplate.Value.Timestamp

set_option autoImplicit false

namespace PromptTemplate

/-- A wildcard with its entries, in the order in which they are tried. -/
structure Definition where
  name : Text
  entries : List Text
  deriving DecidableEq, Repr

/-- A definition without entries cannot be used. -/
def Definition.isUsable (definition : Definition) : Bool :=
  !definition.entries.isEmpty

/-- The kinds of collections that can lie inside themselves. -/
inductive Brackets where
  | list
  | map
  | tuple
  deriving DecidableEq, Repr

/-- A value of a data file or of a caller. Maps keep the order of their keys. -/
inductive Value where
  | null
  | bool (b : Bool)
  | int (n : Int)
  | float (x : Float)
  | text (t : Text)
  | timestamp (moment : Timestamp)
  | list (items : List Value)
  | map (entries : List (Value × Value))
  /-- Values without repetition, in the order in which they are gone through. -/
  | set (items : List Value)
  | tuple (items : List Value)
  | bytes (codes : Codes)
  /-- A collection that lies inside itself, at the place where it comes again. -/
  | again (brackets : Brackets)
  | definition (d : Definition)

namespace Value

def typeName : Value → String
  | .null => "NoneType"
  | .bool _ => "bool"
  | .int _ => "int"
  | .float _ => "float"
  | .text _ => "str"
  | .timestamp moment => if moment.time.isSome then "datetime" else "date"
  | .list _ | .again .list => "list"
  | .map _ | .again .map => "dict"
  | .set _ => "set"
  | .tuple _ | .again .tuple => "tuple"
  | .bytes _ => "bytes"
  | .definition _ => "WildcardDefinition"

/-- Whether a value counts as empty: nothing, false, zero, or without content. -/
def isEmpty : Value → Bool
  | .null => true
  | .bool b => !b
  | .int n => n == 0
  | .float x => x == 0.0
  | .text t => t.isEmpty
  | .list items | .set items | .tuple items => items.isEmpty
  | .bytes codes => codes.isEmpty
  | .map entries => entries.isEmpty
  | .timestamp _ | .definition _ | .again _ => false

/-- What a value is gone through by: its items, the keys of a map, the characters of a text or the numbers of
bytes. -/
def items? : Value → Option (List Value)
  | .list items | .set items | .tuple items => some items
  | .map entries => some (entries.map (·.1))
  | .text characters => some (characters.map fun c => .text [c])
  | .bytes codes => some (codes.map fun (code : Nat) => .int code)
  | _ => none

def whole? : Value → Option Int
  | .bool b => some (if b then 1 else 0)
  | .int n => some n
  | .float x =>
    match Decimal.Reading.ofFloat x with
    | .finite negative magnitude =>
      let sized (n : Nat) : Int := if negative then -(n : Int) else n
      if 0 ≤ magnitude.exponent then
        some (sized (magnitude.significand * Nat.pow 2 magnitude.exponent.natAbs))
      else if magnitude.significand % Nat.pow 2 magnitude.exponent.natAbs = 0 then
        some (sized (magnitude.significand / Nat.pow 2 magnitude.exponent.natAbs))
      else none
    | _ => none
  | _ => none

/-- Whether two keys of a map are the same. Numbers are compared by value across their types. -/
def sameKey : Value → Value → Bool
  | .null, .null => true
  | .text a, .text b => a == b
  | .bytes a, .bytes b => a == b
  | .timestamp a, .timestamp b => a.isSame b
  | .float x, .float y => x == y
  | a, b =>
    match a.whole?, b.whole? with
    | some m, some n => m == n
    | _, _ => false

def lookup? (entries : List (Value × Value)) (key : Text) : Option Value :=
  Assoc.find? sameKey entries (.text key)

end Value

end PromptTemplate
