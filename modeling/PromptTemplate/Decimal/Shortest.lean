import PromptTemplate.Decimal.Binary

set_option autoImplicit false

namespace PromptTemplate.Decimal

/-- A decimal number as its digits without leading or trailing zeros and the exponent of its first
digit: `d.ddd * 10 ^ lead`. Zero is the one digit zero. -/
structure Digits where
  digits : List Char
  lead : Int
  deriving DecidableEq, Repr

def Digits.ofScaled (n : Nat) (e : Int) : Digits :=
  let written := Nat.toDigits 10 n
  let kept := (written.reverse.dropWhile (· == '0')).reverse
  ⟨if kept.isEmpty then ['0'] else kept, e + (written.length : Int) - 1⟩

/-- Orders `a * 10 ^ i` and `b * 2 ^ j`. -/
def compareScaled (a : Nat) (i : Int) (b : Nat) (j : Int) : Ordering :=
  let left := a * (if i < 0 then 1 else Nat.pow 10 i.natAbs) * (if j < 0 then Nat.pow 2 j.natAbs else 1)
  let right := b * (if j < 0 then 1 else Nat.pow 2 j.natAbs) * (if i < 0 then Nat.pow 10 i.natAbs else 1)
  compare left right

def readsBack (value : Binary) (n : Nat) (i : Int) : Bool :=
  let m := value.significand
  let narrowBelow := m = Nat.pow 2 52 ∧ leastExponent < value.exponent
  let low := compareScaled n i (if narrowBelow then 4 * m - 1 else 4 * m - 2) (value.exponent - 2)
  let high := compareScaled n i (4 * m + 2) (value.exponent - 2)
  (low == .gt || low == .eq && m % 2 == 0) && (high == .lt || high == .eq && m % 2 == 0)

/-- The least exponent of ten above a positive binary value. -/
def scaleOf (value : Binary) : Int :=
  let twos : Int := Nat.log2 value.significand + value.exponent
  let estimate := twos * 30103 / 100000
  let candidates := [estimate - 1, estimate, estimate + 1, estimate + 2]
  (candidates.find? fun k => compareScaled 1 k value.significand value.exponent == .gt).getD
    (estimate + 3)

/-- The whole number of grid steps `10 ^ i` in a binary value. -/
def stepsIn (value : Binary) (i : Int) : Nat :=
  value.significand * (if value.exponent < 0 then 1 else Nat.pow 2 value.exponent.natAbs) *
      (if i < 0 then Nat.pow 10 i.natAbs else 1) /
    ((if value.exponent < 0 then Nat.pow 2 value.exponent.natAbs else 1) *
      (if i < 0 then 1 else Nat.pow 10 i.natAbs))

/-- The number of grid steps nearest to a binary value, a half going to the even number. -/
def nearestSteps (value : Binary) (i : Int) : Nat :=
  roundQuotient
    (value.significand * (if value.exponent < 0 then 1 else Nat.pow 2 value.exponent.natAbs) *
      (if i < 0 then Nat.pow 10 i.natAbs else 1))
    ((if value.exponent < 0 then Nat.pow 2 value.exponent.natAbs else 1) *
      (if i < 0 then 1 else Nat.pow 10 i.natAbs))

/-- The point of the grid `10 ^ i` that reads back to the value, the nearer of two, the even one of two
equally near. -/
def hit? (value : Binary) (i : Int) : Option Nat :=
  let below := stepsIn value i
  match readsBack value below i, readsBack value (below + 1) i with
  | true, true => some (nearestSteps value i)
  | true, false => some below
  | false, true => some (below + 1)
  | false, false => none

/-- The shortest decimal that reads back to a binary value. Seventeen digits always suffice; the exact
value stands behind them. -/
def shortest (value : Binary) : Digits :=
  if value.significand = 0 then ⟨['0'], 0⟩
  else
    let scale := scaleOf value
    let grids := (List.range 17).map fun (n : Nat) => scale - (n + 1 : Nat)
    match grids.findSome? fun i => (hit? value i).map fun steps => (steps, i) with
    | some (steps, i) => Digits.ofScaled steps i
    | none =>
      if value.exponent < 0 then
        Digits.ofScaled (value.significand * Nat.pow 5 value.exponent.natAbs) value.exponent
      else Digits.ofScaled (value.significand * Nat.pow 2 value.exponent.natAbs) 0

/-- A binary value rounded to a positive number of significant digits, a half to the even digit. -/
def significant (count : Nat) (value : Binary) : Digits :=
  if value.significand = 0 then ⟨['0'], 0⟩
  else
    let i := scaleOf value - count
    Digits.ofScaled (nearestSteps value i) i

end PromptTemplate.Decimal
