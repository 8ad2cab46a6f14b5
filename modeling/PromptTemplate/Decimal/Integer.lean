import PromptTemplate.Decimal.Numeral

set_option autoImplicit false

namespace PromptTemplate.Decimal

/-- The most digits of a numeral whose base is no power of two. -/
def maxNumeral : Nat := 4300

def baseDigit? (base : Nat) (c : Char) : Option Nat :=
  let value := match Text.digitValue? c with
    | some digit => digit
    | none =>
      if 'a' ≤ c && c ≤ 'f' then c.toNat - 'a'.toNat + 10
      else if 'A' ≤ c && c ≤ 'F' then c.toNat - 'A'.toNat + 10
      else base
  if value < base then some value else none

def baseLetter? : Nat → Option Char
  | 2 => some 'b'
  | 8 => some 'o'
  | 16 => some 'x'
  | _ => none

def withoutBase (base : Nat) : Text → Text
  | zero :: letter :: rest =>
    if Text.digitValue? zero = some 0 && baseLetter? base = some letter.toLower then rest
    else zero :: letter :: rest
  | text => text

/-- The number that an unsigned text spells in a base. -/
def natOfText? (base : Nat) (text : Text) : Option Nat := do
  let digits ← (withoutBase base text).mapM (baseDigit? base)
  if digits.isEmpty || ((baseLetter? base).isNone && maxNumeral < digits.length) then none
  else return digits.foldl (fun n digit => base * n + digit) 0

/-- The integer that a text spells in a base, blank characters around it aside. -/
def integerOfText? (base : Nat) (text : Text) : Option Int :=
  match withoutMargins text with
  | '-' :: rest => (natOfText? base rest).map fun n => -(n : Int)
  | '+' :: rest => (natOfText? base rest).map fun n => (n : Int)
  | rest => (natOfText? base rest).map fun n => (n : Int)

end PromptTemplate.Decimal
