import PromptTemplate.Formula.Operand.Arithmetic
import PromptTemplate.Letter.Class

set_option autoImplicit false

namespace PromptTemplate.Formula

/-- Where a value stands in its width. -/
inductive Alignment where
  | left
  | right
  | middle
  /-- Behind the sign and the mark of the base. -/
  | split
  deriving DecidableEq, Repr

/-- What separates groups of digits. -/
inductive Grouping where
  | none
  | comma
  | underscore
  deriving DecidableEq, Repr

structure Format where
  fill : Nat
  alignment : Alignment
  /-- A plus sign, a minus sign or a blank. -/
  sign : Option Nat
  /-- Whether a zero never has a sign. -/
  plainZero : Bool
  alternate : Bool
  width : Nat
  grouping : Grouping
  precision : Option Nat
  /-- The letter for the kind of the number, if there is one. -/
  kind : Option Nat

namespace Format

/-! ### Reading -/

def alignment? (code : Nat) : Option Alignment :=
  if code = 60 then some .left
  else if code = 62 then some .right
  else if code = 94 then some .middle
  else if code = 61 then some .split
  else none

def digit? (code : Nat) : Option Nat :=
  (Text.digitZeros.find? fun first => first ≤ code && code < first + 10).map (code - ·)

/-- A number at the start of a run, if there is one, and what follows. -/
def number (codes : Codes) : Except Fault (Option Nat × Codes) :=
  let digits := codes.takeWhile fun code => (digit? code).isSome
  let rest := codes.drop digits.length
  if digits.isEmpty then .ok (none, rest)
  else
    let n := Decimal.numberOfDigits (digits.filterMap digit?)
    if Operand.maxSize < n then .error .wrongValue else .ok (some n, rest)

def takeCode (code : Nat) (codes : Codes) : Bool × Codes :=
  if codes.head? = some code then (true, codes.drop 1) else (false, codes)

def fillAndAlignment (codes : Codes) : Option Nat × Option Alignment × Codes :=
  match codes with
  | fill :: code :: rest =>
    match alignment? code, alignment? fill with
    | some alignment, _ => (some fill, some alignment, rest)
    | none, some alignment => (none, some alignment, code :: rest)
    | none, none => (none, none, codes)
  | [code] =>
    match alignment? code with
    | some alignment => (none, some alignment, [])
    | none => (none, none, codes)
  | [] => (none, none, [])

/-- The grouping at the start of a run. A comma and an underscore exclude each other. -/
def groupingOf (codes : Codes) : Except Fault (Grouping × Codes) :=
  match codes with
  | 44 :: 95 :: _ | 95 :: 44 :: _ => .error .wrongValue
  | 44 :: rest => .ok (.comma, rest)
  | 95 :: rest => .ok (.underscore, rest)
  | _ => .ok (.none, codes)

def letters (kinds : String) : Codes :=
  Codes.ofString kinds

def mayGroup (grouping : Grouping) (kind : Option Nat) : Bool :=
  match grouping, kind with
  | .none, _ | _, none => true
  | grouping, some kind =>
    (letters "defgEG%F").contains kind ||
      (grouping == .underscore && (letters "boxX").contains kind)

/-- Reads a format. The arguments say where a value stands without an alignment and which kind it has
without a letter. -/
def ofCodes (standard : Alignment) (standardKind : Option Nat) (codes : Codes) :
    Except Fault Format := do
  let (fill?, alignment?, codes) := fillAndAlignment codes
  let (sign, codes) := match codes with
    | code :: rest => if [32, 43, 45].contains code then (some code, rest) else (none, codes)
    | [] => (none, [])
  let (plainZero, codes) := takeCode 122 codes
  let (alternate, codes) := takeCode 35 codes
  let (zeros, codes) := if fill?.isNone then takeCode 48 codes else (false, codes)
  let (width?, codes) ← number codes
  let (grouping, codes) ← groupingOf codes
  let (precision, codes) ← match codes with
    | 46 :: rest => do
      let (precision, rest) ← number rest
      if precision.isNone then throw .wrongValue
      pure (precision, rest)
    | _ => pure (none, codes)
  let kind ← match codes with
    | [] => pure standardKind
    | [kind] => pure (some kind)
    | _ => throw .wrongValue
  if !mayGroup grouping kind then throw .wrongValue
  let fill := if zeros then 48 else fill?.getD 32
  let alignment := alignment?.getD (if zeros && standard == .right then .split else standard)
  return { fill, alignment, sign, plainZero, alternate, width := width?.getD 0, grouping, precision,
           kind }

/-! ### Laying out -/

def place (format : Format) (codes : Codes) : Except Fault Codes := do
  if Operand.maxStored < format.width then throw .tooLarge
  let free := format.width - codes.length
  let left := match format.alignment with
    | .right => free
    | .middle => free / 2
    | .left | .split => 0
  return Codes.pad left (free - left) format.fill codes

def text (format : Format) (codes : Codes) : Except Fault Codes :=
  if format.sign.isSome || format.plainZero || format.alternate || format.alignment == .split ||
      format.kind != some 115 then
    .error .wrongValue
  else
    let shown := match format.precision with
      | some most => codes.take most
      | none => codes
    format.place shown

/-- Digits in groups of a size, filled with zeros up to a width. The digits stand last one first, and
so does the result; the last argument bounds the number of groups. -/
def grouped (size : Nat) (separator : Nat) (width : Int) (digits : Codes) : Nat → Codes
  | 0 => digits
  | groups + 1 =>
    let remaining : Int := digits.length
    let length := min (size : Int) (max (max remaining width) 1)
    let group := digits.take length.toNat
    let zeros := List.replicate (length.toNat - group.length) 48
    let rest := digits.drop length.toNat
    let left := width - length
    if rest.isEmpty && left ≤ 0 then group ++ zeros
    else group ++ zeros ++ separator :: grouped size separator (left - 1) rest groups

structure NumberParts where
  negative : Bool
  /-- The mark of the base. -/
  mark : Codes
  digits : Codes
  /-- The point, the digits behind it and all that follows. -/
  rest : Codes

def signOf (format : Format) (negative : Bool) : Codes :=
  if negative then [45]
  else match format.sign with
    | some 43 => [43]
    | some 32 => [32]
    | _ => []

/-- The digits of a number with their groups, and with zeros if they fill the width. -/
def digitsOf (format : Format) (parts : NumberParts) (sign : Codes) : Codes :=
  let others := sign.length + parts.mark.length + parts.rest.length
  let width : Int :=
    if format.fill = 48 && format.alignment == .split then (format.width : Int) - others else 0
  let size := match format.kind with
    | some kind => if (letters "boxX").contains kind then 4 else 3
    | none => 3
  let bound := parts.digits.length + format.width + 1
  let backwards := parts.digits.reverse
  if parts.digits.isEmpty then []
  else match format.grouping with
    | .none => (List.replicate (width - parts.digits.length).toNat 48) ++ parts.digits
    | .comma => (grouped size 44 width backwards bound).reverse
    | .underscore => (grouped size 95 width backwards bound).reverse

def layOut (format : Format) (parts : NumberParts) : Except Fault Codes := do
  if Operand.maxStored < format.width then throw .tooLarge
  let sign := format.signOf parts.negative
  let digits := format.digitsOf parts sign
  match format.alignment with
  | .split =>
    let front := sign ++ parts.mark
    let free := format.width - (front.length + digits.length + parts.rest.length)
    return front ++ List.replicate free format.fill ++ digits ++ parts.rest
  | _ => format.place (sign ++ parts.mark ++ digits ++ parts.rest)

/-! ### Integers -/

def digitsIn (base n : Nat) : Except Fault Codes :=
  if base = 10 then (Operand.intText n).map Codes.ofText
  else .ok (Codes.ofText (Nat.toDigits base n))

def int (format : Format) (n : Int) : Except Fault Codes := do
  if format.precision.isSome || format.plainZero then throw .wrongValue
  let kind := format.kind.getD 100
  if kind = 99 then
    if format.sign.isSome || format.alternate then throw .wrongValue
    if n < 0 || 0x10ffff < n then throw .overflow
    format.layOut { negative := false, mark := [], digits := [], rest := [n.toNat] }
  else
    let base := if kind = 98 then 2 else if kind = 111 then 8
      else if kind = 120 || kind = 88 then 16 else 10
    let digits ← digitsIn base n.natAbs
    let mark := if format.alternate && base != 10 then [48, kind] else []
    format.layOut
      { negative := n < 0, mark,
        digits := if kind = 88 then digits.map Codes.upperAscii else digits, rest := [] }

/-! ### Floats -/

/-- Decimal digits of a number and the position of its point in front of or behind them. -/
structure PointedDigits where
  digits : Text
  point : Int

def withPlaces (places : Nat) (magnitude : Decimal.Binary) : PointedDigits :=
  if magnitude.significand = 0 then ⟨['0'], 1⟩
  else
    let steps := Decimal.nearestSteps magnitude (-(places : Int))
    if steps = 0 then ⟨[], -(places : Int)⟩
    else
      let found := Decimal.Digits.ofScaled steps (-(places : Int))
      ⟨found.digits, found.lead + 1⟩

def pointed (found : Decimal.Digits) : PointedDigits :=
  ⟨found.digits, found.lead + 1⟩

/-- A float before it is laid out: the kind tells which digits are shown and whether there is an
exponent. -/
def floatText (kind : Nat) (precision : Nat) (wholePoint alternate : Bool)
    (magnitude : Decimal.Binary) : PointedDigits × Text :=
  let lower := Codes.lowerAscii kind
  let count := if lower = 101 then precision + 1 else if precision = 0 then 1 else precision
  let found :=
    if lower = 102 then withPlaces precision magnitude
    else if lower = 114 then pointed (Decimal.shortest magnitude)
    else pointed (Decimal.significant count magnitude)
  let length : Int := found.digits.length
  let hasExponent :=
    if lower = 101 then true
    else if lower = 102 then false
    else if lower = 114 then found.point ≤ -4 || 16 < found.point
    else found.point ≤ -4 || (if wholePoint then (count : Int) - 1 else count) < found.point
  let wanted : Int :=
    if lower = 101 then (precision : Int) + 1
    else if lower = 102 then found.point + precision
    else if lower = 103 && alternate then count
    else length
  let point := if hasExponent then 1 else found.point
  let last := max wanted (if wholePoint && !hasExponent then point + 1 else point)
  let first : Int := if point ≤ 0 then point - 1 else 0
  let digitAt (i : Int) : Char := if i < 0 then '0' else found.digits[i.toNat]?.getD '0'
  let span (low high : Int) : Text :=
    (List.range (high - low).toNat).map fun (k : Nat) => digitAt (low + (k : Int))
  let whole := span first point
  let fraction := span point last
  let shown := whole ++ (if fraction.isEmpty && !alternate then [] else '.' :: fraction)
  let exponent := if hasExponent then 'e' :: Decimal.exponentText (found.point - 1) else []
  (found, shown ++ exponent)

def maxPrecision : Nat := Nat.pow 2 31 - 1

/-- The parts of a float by a format; the flag says whether a whole number without a kind keeps a
point. -/
def floatParts (format : Format) (wholePoint : Bool) (x : Float) : Except Fault NumberParts := do
  if format.precision.any (maxPrecision < ·) then throw .wrongValue
  let percent := format.kind == some 37
  let y := if percent then x * 100.0 else x
  let (kind, precision) := match format.kind, format.precision with
    | none, none => (114, 0)
    | none, some precision => (103, precision)
    | some kind, precision =>
      (if percent then 102 else if kind = 110 then 103 else kind, precision.getD 6)
  let upper := 65 ≤ kind && kind ≤ 90
  let cased (text : Text) : Codes :=
    (Codes.ofText text).map fun code => if upper then Codes.upperAscii code else code
  let tail : Codes := if percent then [37] else []
  match Decimal.Reading.ofFloat y with
  | .nan => return { negative := false, mark := [], digits := [], rest := cased "nan".toList ++ tail }
  | .infinite negative =>
    return { negative, mark := [], digits := [], rest := cased "inf".toList ++ tail }
  | .finite negative magnitude =>
    let (found, shown) :=
      floatText kind precision (wholePoint && format.kind.isNone) format.alternate magnitude
    let isZero := found.digits.all (· == '0')
    let codes := cased shown
    let digits := codes.takeWhile fun code => 48 ≤ code && code ≤ 57
    return { negative := negative && !(format.plainZero && isZero), mark := [], digits,
             rest := codes.drop digits.length ++ tail }

def float (format : Format) (x : Float) : Except Fault Codes := do
  format.layOut (← format.floatParts true x)

/-- A complex number by a format: both parts, the imaginary one with its sign. -/
def complex (format : Format) (z : Complex) : Except Fault Codes := do
  if format.fill = 48 || format.alignment == .split then throw .wrongValue
  let bare := { format with width := 0, alignment := .left, fill := 0 }
  let alone := format.kind.isNone && z.re.toBits == 0
  let re ← bare.layOut (← bare.floatParts false z.re)
  let signed := if alone then bare else { bare with sign := some 43 }
  let im ← signed.layOut (← signed.floatParts false z.im)
  let body := if alone then im ++ [106] else re ++ im ++ [106]
  format.place (if format.kind.isNone && !alone then 40 :: body ++ [41] else body)

/-- A value by a written format. An empty one gives the plain form. -/
def value (codes : Codes) (a : Operand) : Except Fault Codes :=
  if codes.isEmpty then a.plain
  else match a, a.int? with
    | .text shown, _ => do (← ofCodes .left (some 115) codes).text shown
    | .float x, _ => do real (← ofCodes .right none codes) x
    | .complex z, _ => do
      let format ← ofCodes .right none codes
      if format.kind.all (letters "eEfFgGn").contains then format.complex z else throw .wrongValue
    | _, some n => do
      let format ← ofCodes .right (some 100) codes
      if format.kind.all (letters "bcdoxXn").contains then format.int n
      else do
        if !format.kind.all (letters "eEfFgG%").contains then throw .wrongValue
        real format (← a.real?)
    | _, none => .error .wrongType
where
  /-- A float by a format, if the format has a kind of floats. -/
  real (format : Format) (x : Float) : Except Fault Codes :=
    if format.kind.all (letters "eEfFgGn%").contains then format.float x else .error .wrongValue

end Format

end PromptTemplate.Formula
