import PromptTemplate.Decimal.Magnitude

set_option autoImplicit false

namespace PromptTemplate.Formula

/-- A number with a real and an imaginary part. -/
structure Complex where
  re : Float
  im : Float

/-- Why a power has no value. -/
inductive Complex.PowerFault where
  /-- The base is zero, and the exponent negative or not real. -/
  | zeroBase
  | overflow
  deriving DecidableEq, Repr

namespace Complex

def one : Complex := ⟨1.0, 0.0⟩

def isZero (z : Complex) : Bool :=
  z.re == 0.0 && z.im == 0.0

def add (a b : Complex) : Complex :=
  ⟨a.re + b.re, a.im + b.im⟩

def sub (a b : Complex) : Complex :=
  ⟨a.re - b.re, a.im - b.im⟩

def mul (a b : Complex) : Complex :=
  ⟨a.re * b.re - a.im * b.im, a.re * b.im + a.im * b.re⟩

def neg (a : Complex) : Complex :=
  ⟨-a.re, -a.im⟩

/-- The number with the other sign of its imaginary part. -/
def conjugate (a : Complex) : Complex :=
  ⟨a.re, -a.im⟩

/-- The quotient, or none for a divisor that is zero. -/
def div? (a b : Complex) : Option Complex :=
  if b.im.abs ≤ b.re.abs then
    if b.re == 0.0 then none
    else
      let ratio := b.im / b.re
      let scale := b.re + b.im * ratio
      some ⟨(a.re + a.im * ratio) / scale, (a.im - a.re * ratio) / scale⟩
  else if b.re.abs ≤ b.im.abs then
    let ratio := b.re / b.im
    let scale := b.re * ratio + b.im
    some ⟨(a.re * ratio + a.im) / scale, (a.im * ratio - a.re) / scale⟩
  else some ⟨Decimal.notANumber, Decimal.notANumber⟩

/-- The power to a whole exponent by squaring. The arguments are the result so far, the current square
and the exponent that is left. -/
def squarings (result square : Complex) (exponent : Nat) : Complex :=
  if _positive : exponent = 0 then result
  else
    squarings (if exponent % 2 = 1 then mul result square else result) (mul square square)
      (exponent / 2)
termination_by exponent
decreasing_by omega

/-- The power to a small whole exponent, or none for zero to a negative one. -/
def wholePower? (base : Complex) (exponent : Int) : Option Complex :=
  if 0 < exponent then some (squarings one base exponent.natAbs)
  else div? one (squarings one base exponent.natAbs)

def anglePower (base exponent : Complex) : Complex :=
  let size := (Decimal.length? base.re base.im).getD Decimal.infinity
  let angle := Float.atan2 base.im base.re
  let stretched := Float.pow size exponent.re
  let length := if exponent.im == 0.0 then stretched else stretched / Float.exp (angle * exponent.im)
  let turned := angle * exponent.re
  let phase := if exponent.im == 0.0 then turned else turned + exponent.im * Float.log size
  ⟨length * Float.cos phase, length * Float.sin phase⟩

/-- The largest whole exponent whose power is a product. -/
def maxProductExponent : Float := 100.0

def pow (base exponent : Complex) : Except PowerFault Complex :=
  let result? :=
    if exponent.im == 0.0 && exponent.re == exponent.re.floor &&
        exponent.re.abs ≤ maxProductExponent then
      wholePower? base (if exponent.re < 0.0 then -exponent.re.abs.toUInt64.toNat
        else exponent.re.abs.toUInt64.toNat)
    else if base.isZero then
      if exponent.im == 0.0 && !(exponent.re < 0.0) then some ⟨0.0, 0.0⟩ else none
    else some (anglePower base exponent)
  match result? with
  | none => .error .zeroBase
  | some result =>
    if result.re.isInf || result.im.isInf then .error .overflow else .ok result

end Complex

end PromptTemplate.Formula
