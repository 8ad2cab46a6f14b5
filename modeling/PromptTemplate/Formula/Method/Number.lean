import PromptTemplate.Codes.Encoding
import PromptTemplate.Formula.Method.Bytes

set_option autoImplicit false

namespace PromptTemplate.Formula.NumberMethod

def plain {α : Type} (f : α → Except Fault Operand) (a : α) (arguments : Arguments) :
    Except Fault Operand := do
  let _ ← arguments.listed 0 0
  f a

def bitLength (n : Nat) : Nat :=
  if n = 0 then 0 else Nat.log2 n + 1

def bitCount (n : Nat) : Nat :=
  (Nat.toDigits 2 n).foldl (fun count digit => if digit = '1' then count + 1 else count) 0

/-- Whether an order of bytes, given by name, has the highest byte first. -/
def isBigEndian (order : Option Operand) : Except Fault Bool := do
  match order with
  | none => return true
  | some order =>
    let name ← order.codes
    if name = Codes.ofString "little" then return false
    else if name = Codes.ofString "big" then return true
    else throw .wrongValue

/-- An integer in so many bytes. A negative one needs a sign bit. -/
def toBytes (n : Int) (arguments : Arguments) : Except Fault Operand := do
  let given ← arguments.bound ["length", "byteorder", "signed"] 0 2
  let width ← match given[0]?.join with
    | some width => width.size
    | none => pure 1
  let bigEndian ← isBigEndian given[1]?.join
  let signed := (given[2]?.join.map Operand.isTrue).getD false
  if width < 0 then throw .wrongValue
  if n < 0 && !signed then throw .overflow
  let bits : Nat := if n < 0 then bitLength (n.natAbs - 1) + 1
    else if signed && n != 0 then bitLength n.natAbs + 1 else bitLength n.natAbs
  if 8 * width.toNat < bits then throw .overflow
  if Operand.maxStored < width.toNat then throw .tooLarge
  let magnitude : Nat :=
    if n < 0 then (n + Int.pow 256 width.toNat).toNat else n.natAbs
  return .bytes (Codes.Encoding.ordered bigEndian width.toNat magnitude)

def bytesOf (a : Operand) : Except Fault Codes :=
  match a with
  | .bytes codes => .ok codes
  | .text _ => .error .wrongType
  | a =>
    match a.items? with
    | some items => items.mapM fun item => do
      let n ← item.index
      if RunKind.isByte n then return n.toNat else throw .wrongValue
    | none => .error .wrongType

def ofBytes (arguments : Arguments) : Except Fault Int := do
  let given ← arguments.bound ["bytes", "byteorder", "signed"] 1 2
  let bigEndian ← isBigEndian given[1]?.join
  let signed := (given[2]?.join.map Operand.isTrue).getD false
  let bytes ← bytesOf (given[0]?.join.getD Operand.nothing)
  let n := Codes.Encoding.numberOf bigEndian bytes
  if signed && !bytes.isEmpty && Nat.pow 256 bytes.length ≤ 2 * n then
    return (n : Int) - Int.pow 256 bytes.length
  else return n

def intMethods : List (String × (Int → Arguments → Except Fault Operand)) :=
  [("as_integer_ratio", plain fun n => .ok (.tuple [.int n, .int 1])),
    ("bit_count", plain fun n => .ok (.int (bitCount n.natAbs : Nat))),
    ("bit_length", plain fun n => .ok (.int (bitLength n.natAbs : Nat))),
    ("conjugate", plain fun n => .ok (.int n)),
    ("to_bytes", toBytes),
    ("from_bytes", fun _ arguments => (ofBytes arguments).map .int)]

/-- A float as a quotient of integers without a common divisor. -/
def ratioOf (x : Float) : Except Fault Operand :=
  match Decimal.Reading.ofFloat x with
  | .nan => .error .wrongValue
  | .infinite _ => .error .overflow
  | .finite negative magnitude =>
    let (num, den) :=
      if 0 ≤ magnitude.exponent then (magnitude.significand * Nat.pow 2 magnitude.exponent.natAbs, 1)
      else (magnitude.significand, Nat.pow 2 magnitude.exponent.natAbs)
    let divisor := Nat.gcd num den
    let top : Int := (num / divisor : Nat)
    .ok (.tuple [.int (if negative then -top else top), .int (den / divisor : Nat)])

/-- The hexadecimal form of a float: a digit, thirteen digits behind the point, the exponent of two. -/
def hexOf (x : Float) : Text :=
  match Decimal.Reading.ofFloat x with
  | .nan => "nan".toList
  | .infinite negative => if negative then "-inf".toList else "inf".toList
  | .finite negative magnitude =>
    let sign := if negative then ['-'] else []
    let n := magnitude.significand
    if n = 0 then sign ++ "0x0.0p+0".toList
    else
      let exponent := magnitude.exponent + 52
      sign ++ "0x".toList ++ Text.ofNat (n / Nat.pow 2 52) ++ '.' :: Text.hexadecimal 13 (n % Nat.pow 2 52) ++
        'p' :: (if exponent < 0 then '-' else '+') :: Text.ofNat exponent.natAbs

/-- Hexadecimal digits at the start of a run, and what follows. -/
def hexRun (codes : Codes) : List Nat × Codes :=
  let isDigit (code : Nat) : Bool := (BytesMethod.hexDigit? code).isSome
  ((codes.takeWhile isDigit).filterMap BytesMethod.hexDigit?, codes.dropWhile isDigit)

/-- A decimal exponent behind its letter, and what follows; none without digits. -/
def hexExponent? (codes : Codes) : Option (Int × Codes) :=
  match codes with
  | letter :: rest =>
    if Codes.lowerAscii letter = 112 then
      let (negative, unsigned) := match rest with
        | 45 :: more => (true, more)
        | 43 :: more => (false, more)
        | more => (false, more)
      let digits := unsigned.takeWhile BytesMethod.isDigit
      if digits.isEmpty then none
      else
        let n : Int := Decimal.numberOfDigits (digits.map (· - 48))
        some (if negative then -n else n, unsigned.dropWhile BytesMethod.isDigit)
    else some (0, codes)
  | [] => some (0, [])

/-- The float `n * 2 ^ e`, unless it is beyond the largest finite one. -/
def scaled (negative : Bool) (n : Nat) (e : Int) : Except Fault Operand :=
  let zero : Operand := .float (if negative then -0.0 else 0.0)
  if n = 0 then .ok zero
  else if e + (Nat.log2 n : Int) < -1100 then .ok zero
  else if 1100 < e + (Nat.log2 n : Int) then .error .overflow
  else
    let (num, den) := if e < 0 then (n, Nat.pow 2 e.natAbs) else (n * Nat.pow 2 e.natAbs, 1)
    match Decimal.floatOfQuotient? negative num den with
    | some x => .ok (.float x)
    | none => .error .overflow

/-- The float that an unsigned hexadecimal form spells. -/
def unsignedHex (negative : Bool) (codes : Codes) : Except Fault Operand :=
  let lowered := codes.map Codes.lowerAscii
  if lowered = Codes.ofString "inf" || lowered = Codes.ofString "infinity" then
    .ok (.float (if negative then -Decimal.infinity else Decimal.infinity))
  else if lowered = Codes.ofString "nan" then .ok (.float Decimal.notANumber)
  else
    let bare := if (Codes.ofString "0x").isPrefixOf lowered then codes.drop 2 else codes
    let (whole, afterWhole) := hexRun bare
    let (fraction, afterFraction) := match afterWhole with
      | 46 :: rest => hexRun rest
      | rest => ([], rest)
    match hexExponent? afterFraction with
    | some (exponent, []) =>
      if whole.isEmpty && fraction.isEmpty then .error .wrongValue
      else
        let n := (whole ++ fraction).foldl (fun n digit => 16 * n + digit) 0
        scaled negative n (exponent - 4 * (fraction.length : Int))
    | _ => .error .wrongValue

/-- The float that a hexadecimal form spells, blanks around it aside. -/
def ofHex (arguments : Arguments) : Except Fault Operand := do
  match ← arguments.listed 1 1 with
  | form :: _ =>
    match Codes.strip true true Codes.isBlankByte (← form.codes) with
    | 45 :: rest => unsignedHex true rest
    | 43 :: rest => unsignedHex false rest
    | rest => unsignedHex false rest
  | [] => throw .wrongType

def floatMethods : List (String × (Float → Arguments → Except Fault Operand)) :=
  [("as_integer_ratio", plain ratioOf),
    ("conjugate", plain fun x => .ok (.float x)),
    ("hex", plain fun x => .ok (.text (Codes.ofText (hexOf x)))),
    ("fromhex", fun _ => ofHex),
    ("is_integer", plain fun x => .ok (.bool (Operand.wholeOf? x).isSome))]

def part? (owner : Operand) (name : Text) : Option Operand :=
  let name := String.ofList name
  match owner.int?, owner with
  | some n, _ =>
    if name = "real" || name = "numerator" then some (.int n)
    else if name = "imag" then some (.int 0)
    else if name = "denominator" then some (.int 1)
    else none
  | none, .float x =>
    if name = "real" then some (.float x) else if name = "imag" then some (.float 0.0) else none
  | none, .complex z =>
    if name = "real" then some (.float z.re) else if name = "imag" then some (.float z.im) else none
  | none, _ => none

end PromptTemplate.Formula.NumberMethod
