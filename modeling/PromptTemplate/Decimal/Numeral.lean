import PromptTemplate.Decimal.Binary
import PromptTemplate.Text.Basic

set_option autoImplicit false

namespace PromptTemplate.Decimal

/-- Digits beyond this many matter only by whether they are all zero: no point halfway between two floats
has more. -/
def decisiveDigits : Nat := 800

def numberOfDigits (digits : List Nat) : Nat :=
  digits.foldl (fun n digit => 10 * n + digit) 0

def floatOfDigits (negative : Bool) (digits : List Nat) (exponent : Int) : Float :=
  let significant := digits.dropWhile (· == 0)
  let rest := significant.drop decisiveDigits
  if rest.isEmpty then floatOfDecimal negative (numberOfDigits significant) exponent
  else
    let mark := if rest.all (· == 0) then 0 else 1
    floatOfDecimal negative (numberOfDigits (significant.take decisiveDigits ++ [mark]))
      (exponent + (rest.length : Int) - 1)

def startsWithDigit : Text → Bool
  | [] => false
  | c :: _ => (Text.digitValue? c).isSome

/-- Decimal digits at the start of a text that goes on from a digit, and what follows. A single
underscore may stand between two digits. -/
def digitRun : Text → List Nat × Text
  | [] => ([], [])
  | c :: rest =>
    match Text.digitValue? c with
    | some digit => (digit :: (digitRun rest).1, (digitRun rest).2)
    | none => if c = '_' && startsWithDigit rest then digitRun rest else ([], c :: rest)

/-- Decimal digits at the start of a text, at least one, and what follows. -/
def leadingDigits (text : Text) : Option (List Nat × Text) :=
  if startsWithDigit text then some (digitRun text) else none

def leadingExponent : Text → Int × Text
  | e :: rest =>
    if e = 'e' || e = 'E' then
      let (negative, unsigned) := match rest with
        | '-' :: more => (true, more)
        | '+' :: more => (false, more)
        | more => (false, more)
      match leadingDigits unsigned with
      | some (digits, after) =>
        let n : Int := numberOfDigits digits
        (if negative then -n else n, after)
      | none => (0, e :: rest)
    else (0, e :: rest)
  | [] => (0, [])

def unsignedFloat? (negative : Bool) (text : Text) : Option Float :=
  let lowered := text.map Char.toLower
  if lowered = "inf".toList || lowered = "infinity".toList then
    some (if negative then -infinity else infinity)
  else if lowered = "nan".toList then some notANumber
  else
    let (whole, afterWhole) := (leadingDigits text).getD ([], text)
    let (fraction, afterFraction) := match afterWhole with
      | '.' :: rest => (leadingDigits rest).getD ([], rest)
      | rest => ([], rest)
    if whole.isEmpty && fraction.isEmpty then none
    else
      match leadingExponent afterFraction with
      | (exponent, []) =>
        some (floatOfDigits negative (whole ++ fraction) (exponent - (fraction.length : Int)))
      | _ => none

/-- Whether a character may stand around a number: a blank, but none of the separators that ASCII has
among its controls. -/
def isMargin (c : Char) : Bool :=
  Text.isBlankChar c && !(0x1c ≤ c.toNat && c.toNat ≤ 0x1f)

/-- The text without the characters that may stand around a number. -/
def withoutMargins (text : Text) : Text :=
  ((text.dropWhile isMargin).reverse.dropWhile isMargin).reverse

/-- The float that a text spells, blank characters around it aside. -/
def floatOfText? (text : Text) : Option Float :=
  match withoutMargins text with
  | '-' :: rest => unsignedFloat? true rest
  | '+' :: rest => unsignedFloat? false rest
  | rest => unsignedFloat? false rest

end PromptTemplate.Decimal
