import PromptTemplate.Decimal.Binary

set_option autoImplicit false

namespace PromptTemplate.Decimal

/-- The whole part of a square root, by halving an interval that holds it. -/
def rootWithin : Nat → Nat → Nat → Nat → Nat
  | 0, _, low, _ => low
  | steps + 1, n, low, high =>
    if high ≤ low + 1 then low
    else
      let middle := (low + high) / 2
      if middle * middle ≤ n then rootWithin steps n middle high else rootWithin steps n low middle

def wholeRoot (n : Nat) : Nat :=
  rootWithin (Nat.log2 n + 2) n 0 (Nat.pow 2 (Nat.log2 n / 2 + 1))

/-- A positive square as `n * 2 ^ e`, with an even `e` so small that the root of `n` has more digits than
a float holds. -/
def scaledSquare (n : Nat) (e : Int) : Nat × Int :=
  let missing := 140 - Nat.log2 n
  let shift := if (e - (missing : Nat)) % 2 = 0 then missing else missing + 1
  (n * Nat.pow 2 shift, e - (shift : Nat))

/-- The float nearest to the root of a positive `n * 2 ^ e`, or none beyond the largest finite one. -/
def nearestRoot? (n : Nat) (e : Int) : Option Float :=
  let (square, exponent) := scaledSquare n e
  let root := wholeRoot square
  -- a digit behind the root tells whether something was cut off
  let marked := 2 * root + (if root * root = square then 0 else 1)
  let half := exponent / 2 - 1
  if half < 0 then floatOfQuotient? false marked (Nat.pow 2 half.natAbs)
  else floatOfQuotient? false (marked * Nat.pow 2 half.natAbs) 1

/-- The length of a vector, or none beyond the largest finite float. An infinite component makes it
infinite, whatever the other one is. -/
def length? (x y : Float) : Option Float :=
  match Reading.ofFloat x, Reading.ofFloat y with
  | .infinite _, _ | _, .infinite _ => some infinity
  | .nan, _ | _, .nan => some notANumber
  | .finite _ a, .finite _ b =>
    let e := min a.exponent b.exponent
    let m := a.significand * Nat.pow 2 (a.exponent - e).natAbs
    let n := b.significand * Nat.pow 2 (b.exponent - e).natAbs
    if m = 0 && n = 0 then some 0.0 else nearestRoot? (m * m + n * n) (2 * e)

end PromptTemplate.Decimal
