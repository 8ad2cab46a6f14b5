import PromptTemplate.Decimal.Shortest
import PromptTemplate.Text.Basic

set_option autoImplicit false

namespace PromptTemplate.Decimal

/-- Decisions of a number format. -/
structure Layout where
  /-- Below this exponent of the first digit the exponent form is used. -/
  positionalFrom : Int := -4
  /-- From this exponent of the first digit on the exponent form is used. -/
  positionalBelow : Int := 16
  /-- Whether a whole number in positional form ends in a point and a zero. -/
  wholeFraction : Bool := true
  /-- Whether a single digit before an exponent is followed by a point and a zero. -/
  wholeMantissa : Bool := false
  /-- The number of significant digits, or none for the fewest that read back. -/
  significantDigits : Option Nat := none
  infinity : Text := "inf".toList
  notANumber : Text := "nan".toList

/-- An exponent with its sign and at least two digits. -/
def exponentText (e : Int) : Text :=
  let digits := Text.ofNat e.natAbs
  (if e < 0 then '-' else '+') :: (if digits.length < 2 then '0' :: digits else digits)

def Layout.place (layout : Layout) (number : Digits) : Text :=
  let digits := number.digits
  if number.lead < layout.positionalFrom || layout.positionalBelow ≤ number.lead then
    let mantissa := match digits with
      | first :: second :: rest => first :: '.' :: second :: rest
      | whole => if layout.wholeMantissa then whole ++ ".0".toList else whole
    mantissa ++ 'e' :: exponentText number.lead
  else if number.lead < 0 then
    "0.".toList ++ List.replicate (number.lead.natAbs - 1) '0' ++ digits
  else
    let whole := number.lead.natAbs + 1
    let fraction := digits.drop whole
    let integer := digits.take whole ++ List.replicate (whole - digits.length) '0'
    if fraction.isEmpty then
      if layout.wholeFraction then integer ++ ".0".toList else integer
    else integer ++ '.' :: fraction

def Layout.render (layout : Layout) (x : Float) : Text :=
  match Reading.ofFloat x with
  | .nan => layout.notANumber
  | .infinite negative => if negative then '-' :: layout.infinity else layout.infinity
  | .finite negative magnitude =>
    let digits := match layout.significantDigits with
      | some count => significant count magnitude
      | none => shortest magnitude
    let placed := layout.place digits
    if negative then '-' :: placed else placed

/-- Numbers in messages and values: the fewest digits that read back, positionally from `0.0001` to
below ten to the sixteenth, always with a fraction or an exponent. -/
def plain : Layout := {}

/-- Numbers in the cost line: six significant digits, positionally from `0.0001` to below a million,
and no fraction that is zero. -/
def brief : Layout :=
  { positionalBelow := 6, wholeFraction := false, significantDigits := some 6 }

end PromptTemplate.Decimal
