set_option autoImplicit false

namespace PromptTemplate.Decimal

/-- The absolute value `significand * 2 ^ exponent` of a finite float. -/
structure Binary where
  significand : Nat
  exponent : Int
  deriving DecidableEq, Repr

/-- What the bits of a float stand for. -/
inductive Reading where
  | nan
  | infinite (negative : Bool)
  | finite (negative : Bool) (magnitude : Binary)
  deriving DecidableEq, Repr

/-- The exponent of the smallest positive value. -/
def leastExponent : Int := -1074

/-- The meaning of 64 bits: a sign, eleven bits of exponent and 52 bits of fraction. -/
def Reading.ofBits (bits : Nat) : Reading :=
  let negative := bits / Nat.pow 2 63 % 2 == 1
  let biased := bits / Nat.pow 2 52 % Nat.pow 2 11
  let fraction := bits % Nat.pow 2 52
  if biased = Nat.pow 2 11 - 1 then
    if fraction = 0 then .infinite negative else .nan
  else if biased = 0 then .finite negative ⟨fraction, leastExponent⟩
  else .finite negative ⟨Nat.pow 2 52 + fraction, leastExponent + (biased - 1 : Nat)⟩

def Reading.ofFloat (x : Float) : Reading :=
  .ofBits x.toBits.toNat

/-- A natural number times a power of ten, as a quotient of natural numbers. -/
def scaledByTen (n : Nat) (e : Int) : Nat × Nat :=
  if e < 0 then (n, Nat.pow 10 e.natAbs) else (n * Nat.pow 10 e.natAbs, 1)

/-- The quotient rounded to the nearest natural number, a half to the even one. -/
def roundQuotient (num den : Nat) : Nat :=
  let below := num / den
  let twice := 2 * (num % den)
  if twice < den then below
  else if den < twice then below + 1
  else if below % 2 = 0 then below else below + 1

/-- Whether a quotient over a power of two is below `2 ^ 53`. -/
def fitsAt (num den : Nat) (e : Int) : Bool :=
  if e < 0 then num * Nat.pow 2 e.natAbs / den < Nat.pow 2 53
  else num / (den * Nat.pow 2 e.natAbs) < Nat.pow 2 53

/-- The exponent for a positive quotient. The significand has 53 bits, unless that would pass below the
least exponent. -/
def exponentOfQuotient (num den : Nat) : Int :=
  let estimate : Int := (Nat.log2 num : Int) - Nat.log2 den - 53
  let wanted := if fitsAt num den estimate then estimate else estimate + 1
  if wanted < leastExponent then leastExponent else wanted

/-- A quotient over a power of two, rounded. -/
def significandAt (num den : Nat) (e : Int) : Nat :=
  if e < 0 then roundQuotient (num * Nat.pow 2 e.natAbs) den
  else roundQuotient num (den * Nat.pow 2 e.natAbs)

def bitsOfSignificand (significand : Nat) (e : Int) : Nat :=
  if significand < Nat.pow 2 52 then significand
  else (e - leastExponent + 1).toNat * Nat.pow 2 52 + (significand - Nat.pow 2 52)

/-- The bits of the float nearest to a quotient, or none if the nearest value is beyond the largest
finite one. -/
def bitsOfQuotient? (num den : Nat) : Option Nat :=
  if num = 0 then some 0
  else
    let e := exponentOfQuotient num den
    let bits := bitsOfSignificand (significandAt num den e) e
    if bits < (Nat.pow 2 11 - 1) * Nat.pow 2 52 then some bits else none

/-- The float nearest to a quotient, or none beyond the largest finite float. -/
def floatOfQuotient? (negative : Bool) (num den : Nat) : Option Float :=
  (bitsOfQuotient? num den).map fun bits =>
    Float.ofBits (UInt64.ofNat (if negative then bits + Nat.pow 2 63 else bits))

/-- The float nearest to an integer, or none beyond the largest finite float. -/
def floatOfInt? (n : Int) : Option Float :=
  floatOfQuotient? (n < 0) n.natAbs 1

def infinity : Float :=
  Float.ofBits 0x7FF0000000000000

/-- The quiet value that is no number. -/
def notANumber : Float :=
  Float.ofBits 0x7FF8000000000000

/-- The float that a decimal numeral stands for: `digits * 10 ^ exponent`, rounded to the nearest
float. Numerals beyond the largest finite float give infinity, and numerals far below the least
positive one give zero without the power being computed. -/
def floatOfDecimal (negative : Bool) (digits : Nat) (exponent : Int) : Float :=
  let length : Int := Nat.log2 digits / 3 + 1
  if digits = 0 || length + exponent < -400 then
    if negative then -0.0 else 0.0
  else if 400 < exponent then
    if negative then -infinity else infinity
  else
    let (num, den) := scaledByTen digits exponent
    match floatOfQuotient? negative num den with
    | some x => x
    | none => if negative then -infinity else infinity

end PromptTemplate.Decimal
