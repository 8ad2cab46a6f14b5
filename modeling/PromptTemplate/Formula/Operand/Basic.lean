import PromptTemplate.Codes.Search
import PromptTemplate.Decimal.Numeral
import PromptTemplate.Formula.Complex
import PromptTemplate.Formula.Fault

set_option autoImplicit false

namespace PromptTemplate.Formula

/-- The parts of a dictionary that can be looked at by themselves. -/
inductive DictPart where
  | keys
  | values
  | items
  deriving DecidableEq, Repr

inductive Operand where
  | int (n : Int)
  | bool (b : Bool)
  | float (x : Float)
  | complex (z : Complex)
  | text (codes : Codes)
  | bytes (codes : Codes)
  | nothing
  /-- What three points stand for: a value without any operation. -/
  | ellipsis
  | list (items : List Operand)
  | tuple (items : List Operand)
  /-- Entries in the order in which their keys came. -/
  | dict (entries : List (Operand × Operand))
  | view (part : DictPart) (entries : List (Operand × Operand))
  /-- A method together with the value that it belongs to. -/
  | method (owner : Operand) (name : Text)
  /-- Two bounds and a step, each of which may be missing. -/
  | slice (first last step : Operand)

namespace Operand

/-- The most digits that an integer is written with. -/
def maxDigits : Nat := Text.maxDigits

/-- The largest size that a collection can be asked to have. -/
def maxSize : Nat := Nat.pow 2 63 - 1

/-- The most codes or items that are kept of a repeated value. -/
def maxStored : Nat := Nat.pow 2 27

def isTrue : Operand → Bool
  | .int n => n != 0
  | .bool b => b
  | .float x => !(x == 0.0)
  | .complex z => !z.isZero
  | .text codes | .bytes codes => !codes.isEmpty
  | .nothing => false
  | .list items | .tuple items => !items.isEmpty
  | .dict entries | .view _ entries => !entries.isEmpty
  | .ellipsis | .method _ _ | .slice _ _ _ => true

/-- An integer or a truth value as an integer. -/
def int? : Operand → Option Int
  | .int n => some n
  | .bool b => some (if b then 1 else 0)
  | _ => none

def real? : Operand → Except Fault Float
  | .int n =>
    match Decimal.floatOfInt? n with
    | some x => .ok x
    | none => .error .overflow
  | .bool b => .ok (if b then 1.0 else 0.0)
  | .float x => .ok x
  | _ => .error .wrongType

def complex? : Operand → Except Fault Complex
  | .complex z => .ok z
  | a => a.real?.map fun x => ⟨x, 0.0⟩

def isNumber : Operand → Bool
  | .int _ | .bool _ | .float _ | .complex _ => true
  | _ => false

def isComplex : Operand → Bool
  | .complex _ => true
  | _ => false

def wholeOf? (x : Float) : Option Int :=
  match Decimal.Reading.ofFloat x with
  | .finite negative magnitude =>
    let sized (n : Nat) : Int := if negative then -(n : Int) else n
    if 0 ≤ magnitude.exponent then
      some (sized (magnitude.significand * Nat.pow 2 magnitude.exponent.natAbs))
    else if magnitude.significand % Nat.pow 2 magnitude.exponent.natAbs = 0 then
      some (sized (magnitude.significand / Nat.pow 2 magnitude.exponent.natAbs))
    else none
  | _ => none

/-- Whether two numbers are equal, compared exactly. -/
def sameNumber : Operand → Operand → Bool
  | .complex a, .complex b => a.re == b.re && a.im == b.im
  | .complex a, b => a.im == 0.0 && realIs b a.re
  | a, .complex b => b.im == 0.0 && realIs a b.re
  | .float x, b => realIs b x
  | a, .float y => realIs a y
  | a, b =>
    match a.int?, b.int? with
    | some m, some n => m == n
    | _, _ => false
where
  /-- Whether a real number equals a float. -/
  realIs (a : Operand) (x : Float) : Bool :=
    match a, a.int? with
    | .float y, _ => x == y
    | _, some n => wholeOf? x == some n
    | _, none => false

mutual

/-- Whether two values are equal. -/
def same : Operand → Operand → Bool
  | .text s, .text t => s == t
  | .bytes s, .bytes t => s == t
  | .nothing, .nothing => true
  | .ellipsis, .ellipsis => true
  | .list xs, .list ys => sameAll xs ys
  | .tuple xs, .tuple ys => sameAll xs ys
  | a, b => sameNumber a b

/-- Whether two lists of values are equal, item by item. -/
def sameAll : List Operand → List Operand → Bool
  | [], [] => true
  | x :: xs, y :: ys => same x y && sameAll xs ys
  | _, _ => false

end

def isKey : Operand → Bool
  | .list _ | .dict _ | .view .keys _ | .view .items _ | .slice _ _ _ => false
  | .tuple items => items.attach.all fun ⟨item, _⟩ => item.isKey
  | _ => true

def entry? (entries : List (Operand × Operand)) (key : Operand) : Option Operand :=
  (entries.find? fun (other, _) => same other key).map (·.2)

def partItems (part : DictPart) (entries : List (Operand × Operand)) : List Operand :=
  entries.map fun (key, value) =>
    match part with
    | .keys => key
    | .values => value
    | .items => .tuple [key, value]

def items? : Operand → Option (List Operand)
  | .text codes => some (codes.map fun code => .text [code])
  | .bytes codes => some (codes.map fun code => .int (code : Nat))
  | .list items | .tuple items => some items
  | .dict entries => some (partItems .keys entries)
  | .view part entries => some (partItems part entries)
  | _ => none

end Operand

end PromptTemplate.Formula
