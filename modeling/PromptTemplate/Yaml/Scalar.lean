import PromptTemplate.Codes.Base64
import PromptTemplate.Decimal.Integer
import PromptTemplate.Value.Basic
import PromptTemplate.Yaml.Fault
import PromptTemplate.Yaml.Look

set_option autoImplicit false

namespace PromptTemplate.Yaml.Scalar

def isNegative : Text → Bool
  | '-' :: _ => true
  | _ => false

/-- An answer, or the fault that there is no such value. -/
def orNone {α : Type} (found : Option α) : Except Fault α :=
  match found with
  | some value => .ok value
  | none => .error .noSuchValue

/-- The number that parts in base sixty make up. -/
def sexagesimal (parts : List Text) : Except Fault Int := do
  let numbers ← parts.mapM fun part => orNone (Decimal.integerOfText? 10 part)
  return numbers.foldl (fun n part => 60 * n + part) 0

/-- The integer that a text without sign spells. -/
def magnitude (number : Text) : Except Fault Int :=
  match number with
  | [] => .error .noDigits
  | ['0'] => .ok 0
  | '0' :: 'b' :: digits => orNone (Decimal.integerOfText? 2 digits)
  | '0' :: 'x' :: digits => orNone (Decimal.integerOfText? 16 digits)
  | '0' :: _ => orNone (Decimal.integerOfText? 8 number)
  | _ =>
    if number.contains ':' then sexagesimal (Text.splitOn ':' number)
    else orNone (Decimal.integerOfText? 10 number)

def int (text : Text) : Except Fault Int := do
  let bare := text.filter (· != '_')
  if bare.isEmpty then throw .noDigits
  let size ← magnitude (Look.unsigned bare)
  return if isNegative bare then -size else size

/-- The float that parts in base sixty make up: the last part first, each further one sixty times heavier.
A weight beyond all floats has no product. -/
def sexagesimalSum (sum : Float) (weight : Nat) : List Float → Except Fault Float
  | [] => .ok sum
  | part :: rest =>
    match Decimal.floatOfInt? weight with
    | some factor => sexagesimalSum (sum + part * factor) (weight * 60) rest
    | none => .error .overflow

/-- The letters of a float, without what counts for nothing. -/
def bareFloat (text : Text) : Text :=
  (text.filter (· != '_')).map Char.toLower

/-- Whether a text is the common spelling of what is no number. -/
def isNotANumber (text : Text) : Bool :=
  Look.unsigned (bareFloat text) == ".nan".toList

def float (text : Text) : Except Fault Float := do
  let bare := bareFloat text
  if bare.isEmpty then throw .noDigits
  if isNotANumber text then return Decimal.notANumber
  let number := Look.unsigned bare
  let size ←
    if number = ".inf".toList then .ok Decimal.infinity
    else if number.contains ':' then do
      let parts ← (Text.splitOn ':' number).mapM fun part => orNone (Decimal.floatOfText? part)
      sexagesimalSum 0.0 1 parts.reverse
    else orNone (Decimal.floatOfText? number)
  return if isNegative bare then -size else size

/-- The truth value that a text spells, in letters of either case. -/
def bool (text : Text) : Except Fault Bool :=
  let lowered := text.map Char.toLower
  if Look.trueWords.contains lowered then .ok true
  else if Look.falseWords.contains lowered then .ok false
  else .error .noTruth

/-- The day or moment that a text spells. -/
def timestamp (text : Text) : Except Fault Timestamp :=
  match Look.moment? (Look.stem text) with
  | some moment => if moment.isValid then .ok moment else .error .noSuchValue
  | none => .error .noMoment

/-- The first run of characters that are not ASCII: its first character and the numbers of the first and
the last. -/
def foreignRun? : Nat → Text → Option (Char × Nat × Nat)
  | _, [] => none
  | index, c :: rest =>
    if c.toNat < 0x80 then foreignRun? (index + 1) rest
    else some (c, index, index + (rest.takeWhile (0x80 ≤ ·.toNat)).length)

def binary (place : Mark) (text : Text) : Except Fault Codes :=
  match foreignRun? 0 text with
  | some (c, first, last) => refuseAt (.notAscii c first last) place
  | none =>
    match Codes.Base64.decode text with
    | .ok bytes => .ok bytes
    | .error (.strayDigit count) => refuseAt (.strayDigit count) place
    | .error .missingPadding => refuseAt .missingPadding place

end PromptTemplate.Yaml.Scalar
