import PromptTemplate.Formula.Token.Basic

set_option autoImplicit false

namespace PromptTemplate.Formula.Token

/-- Digits of a class at the start of a text, with single underscores between them, and what follows. -/
def digits (isDigit : Char → Bool) : Text → Except Fault (Text × Text)
  | [] => .ok ([], [])
  | c :: rest =>
    if isDigit c then do
      let (found, after) ← digits isDigit rest
      return (c :: found, after)
    else if c = '_' then
      match rest with
      | next :: _ => if isDigit next then digits isDigit rest else .error .malformed
      | [] => .error .malformed
    else .ok ([], c :: rest)

def digitOf (c : Char) : Nat :=
  if c.isDigit then c.toNat - '0'.toNat else c.toLower.toNat - 'a'.toNat + 10

def numberOf (base : Nat) (digits : Text) : Nat :=
  digits.foldl (fun n c => base * n + digitOf c) 0

def joinedWords : List Text :=
  ["and", "else", "for", "if", "in", "is", "not", "or"].map String.toList

def endsNumeral (rest : Text) : Bool :=
  match rest with
  | [] => true
  | c :: _ =>
    joinedWords.any (·.isPrefixOf rest) || !(Text.isWordChar c || 0x80 ≤ c.toNat)

def basedNumeral (base : Nat) (isDigit : Char → Bool) (text : Text) :
    Except Fault (Token × Text) := do
  let (found, rest) ← digits isDigit text
  if found.isEmpty || !endsNumeral rest then throw .malformed
  return (.number (.int (numberOf base found)), rest)

def exponentOf (text : Text) : Except Fault (Option Int × Text) :=
  match text with
  | e :: rest =>
    if e = 'e' || e = 'E' then
      let (negative, unsigned) := match rest with
        | '-' :: more => (true, more)
        | '+' :: more => (false, more)
        | more => (false, more)
      match unsigned with
      | c :: _ =>
        if c.isDigit then do
          let (found, after) ← digits Char.isDigit unsigned
          let n : Int := numberOf 10 found
          return (some (if negative then -n else n), after)
        else if endsNumeral text then return (none, text)
        else throw .malformed
      | [] => throw .malformed
    else return (none, text)
  | [] => return (none, text)

/-- A whole number. It does not start with the digit zero unless it is zero, and otherwise has not too
many digits. -/
def wholeNumeral (digits : Text) : Except Fault Token :=
  if digits.all (· == '0') then .ok (.number (.int 0))
  else if digits.head? = some '0' then .error .malformed
  else if Operand.maxDigits < digits.length then .ok .broken
  else .ok (.number (.int (numberOf 10 digits)))

/-- A decimal numeral: a whole part, perhaps a fraction, perhaps an exponent, perhaps the imaginary
unit. -/
def decimalNumeral (text : Text) : Except Fault (Token × Text) := do
  let (whole, afterWhole) ← match text with
    | '.' :: _ => pure ([], text)
    | _ => digits Char.isDigit text
  let (fraction, afterFraction) ← match afterWhole with
    | '.' :: rest =>
      match rest with
      | c :: _ => do
        if c.isDigit then
          let (found, after) ← digits Char.isDigit rest
          pure (some found, after)
        else pure (some [], rest)
      | [] => pure (some [], rest)
    | rest => pure (none, rest)
  let (exponent, afterExponent) ← exponentOf afterFraction
  let broken := fraction.getD []
  let size := Decimal.floatOfDigits false ((whole ++ broken).map digitOf)
    (exponent.getD 0 - (broken.length : Int))
  match afterExponent with
  | c :: rest =>
    if c = 'j' || c = 'J' then
      if !endsNumeral rest then throw .malformed
      return (.number (.complex ⟨0.0, size⟩), rest)
  | [] => pure ()
  if !endsNumeral afterExponent then throw .malformed
  if fraction.isNone && exponent.isNone then return (← wholeNumeral whole, afterExponent)
  return (.number (.float size), afterExponent)

def isHexDigit (c : Char) : Bool :=
  c.isDigit || ('a' ≤ c.toLower && c.toLower ≤ 'f')

def numeral (text : Text) : Except Fault (Token × Text) :=
  match text with
  | '0' :: letter :: rest =>
    if letter = 'x' || letter = 'X' then basedNumeral 16 isHexDigit rest
    else if letter = 'o' || letter = 'O' then
      basedNumeral 8 (fun c => '0' ≤ c && c ≤ '7') rest
    else if letter = 'b' || letter = 'B' then
      basedNumeral 2 (fun c => c = '0' || c = '1') rest
    else decimalNumeral text
  | _ => decimalNumeral text

end PromptTemplate.Formula.Token
