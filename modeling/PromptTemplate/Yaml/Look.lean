import PromptTemplate.Value.Timestamp
import PromptTemplate.Yaml.Tag

set_option autoImplicit false

namespace PromptTemplate.Yaml.Look

def trueWords : List Text :=
  ["yes", "Yes", "YES", "true", "True", "TRUE", "on", "On", "ON"].map String.toList

def falseWords : List Text :=
  ["no", "No", "NO", "false", "False", "FALSE", "off", "Off", "OFF"].map String.toList

def nullWords : List Text :=
  ["", "~", "null", "Null", "NULL"].map String.toList

def infinityWords : List Text :=
  [".inf", ".Inf", ".INF"].map String.toList

def nanWords : List Text :=
  [".nan", ".NaN", ".NAN"].map String.toList

def unsigned : Text → Text
  | '-' :: rest => rest
  | '+' :: rest => rest
  | number => number

/-- Whether a character is a digit or an underscore. -/
def isPadded (c : Char) : Bool :=
  c.isDigit || c == '_'

/-- Whether a text is a digit of a class followed by digits and underscores. -/
def isNumeral (isFirst : Char → Bool) : Text → Bool
  | [] => false
  | c :: rest => isFirst c && rest.all isPadded

def isPositiveDigit (c : Char) : Bool :=
  c.isDigit && c != '0'

/-- Whether a text is a number below sixty of one or two digits. -/
def isSixtieth : Text → Bool
  | [c] => c.isDigit
  | [c, d] => '0' ≤ c && c ≤ '5' && d.isDigit
  | _ => false

def isExponent : Text → Bool
  | [] => true
  | e :: sign :: digits =>
    (e == 'e' || e == 'E') && (sign == '-' || sign == '+') && !digits.isEmpty &&
      digits.all Char.isDigit
  | _ => false

/-- Whether a text looks like an integer: binary, octal, decimal, hexadecimal or in base sixty. -/
def isInt (text : Text) : Bool :=
  match unsigned text with
  | ['0'] => true
  | '0' :: 'b' :: digits => !digits.isEmpty && digits.all fun c => c == '0' || c == '1' || c == '_'
  | '0' :: 'x' :: digits =>
    !digits.isEmpty && digits.all fun c =>
      isPadded c || ('a' ≤ c.toLower && c.toLower ≤ 'f')
  | '0' :: digits => digits.all fun c => ('0' ≤ c && c ≤ '7') || c == '_'
  | number =>
    match Text.splitOn ':' number with
    | whole :: sixtieths => isNumeral isPositiveDigit whole && sixtieths.all isSixtieth
    | [] => false

/-- Whether a text looks like a float: with a point, in base sixty with a point, infinite, or no
number. -/
def isFloat (text : Text) : Bool :=
  nanWords.contains text || infinityWords.contains (unsigned text) ||
    (match text with
      | '.' :: c :: rest => c.isDigit && isExponent (rest.dropWhile isPadded)
      | _ => false) ||
    match Text.splitOn ':' (unsigned text) with
    | [] => false
    | [number] =>
      match number.dropWhile isPadded with
      | '.' :: fraction =>
        isNumeral Char.isDigit (number.takeWhile isPadded) &&
          isExponent (fraction.dropWhile isPadded)
      | _ => false
    | whole :: sixtieths =>
      let last := sixtieths.getLast?.getD []
      isNumeral Char.isDigit whole && sixtieths.dropLast.all isSixtieth &&
        isSixtieth (last.takeWhile (· != '.')) &&
        match last.dropWhile (· != '.') with
        | _ :: fraction => fraction.all isPadded
        | [] => false

/-- The number of a fixed count of digits at the start of a text, between a least and a largest count,
and what follows. -/
def number? (least most : Nat) (text : Text) : Option (Nat × Text) :=
  let found := (text.take most).takeWhile Char.isDigit
  if found.length < least then none
  else some (found.foldl (fun n c => 10 * n + (c.toNat - '0'.toNat)) 0, text.drop found.length)

/-- What follows a character at the start of a text. -/
def after? (c : Char) : Text → Option Text
  | d :: rest => if d = c then some rest else none
  | [] => none

def offset? (text : Text) : Option (Option Int) :=
  match text.dropWhile fun c => c == ' ' || c == '\t' with
  | [] => if text.isEmpty then some none else none
  | ['Z'] => some (some 0)
  | sign :: rest =>
    if sign = '-' || sign = '+' then do
      let (hours, rest) ← number? 1 2 rest
      let minutes ← match rest with
        | [] => some 0
        | ':' :: rest =>
          match number? 2 2 rest with
          | some (minutes, []) => some minutes
          | _ => none
        | _ => none
      let seconds : Int := 3600 * hours + 60 * minutes
      return some (if sign = '-' then -seconds else seconds)
    else none

/-- A fraction of a second in millionths; further digits are dropped. -/
def microseconds (digits : Text) : Nat :=
  let kept := digits.take 6
  kept.foldl (fun n c => 10 * n + (c.toNat - '0'.toNat)) 0 * Nat.pow 10 (6 - kept.length)

def timeOfDay? (text : Text) : Option TimeOfDay := do
  let start ← match text with
    | c :: rest =>
      if c = 'T' || c = 't' then some rest
      else if c = ' ' || c = '\t' then some (rest.dropWhile fun c => c == ' ' || c == '\t')
      else none
    | [] => none
  let (hour, rest) ← number? 1 2 start
  let (minute, rest) ← number? 2 2 (← after? ':' rest)
  let (second, rest) ← number? 2 2 (← after? ':' rest)
  let (fraction, rest) := match rest with
    | '.' :: more => (more.takeWhile Char.isDigit, more.dropWhile Char.isDigit)
    | rest => ([], rest)
  let offset ← offset? rest
  return { hour, minute, second, microsecond := microseconds fraction, offset }

/-- The day or moment that a text spells, on the calendar or not. -/
def moment? (text : Text) : Option Timestamp := do
  let (year, rest) ← number? 4 4 text
  let start ← after? '-' rest
  let (month, rest) ← number? 1 2 start
  let (day, rest) ← number? 1 2 (← after? '-' rest)
  if rest.isEmpty then return { year, month, day, time := none }
  else
    let time ← timeOfDay? rest
    return { year, month, day, time := some time }

/-- Whether a text looks like a day or a moment. A day alone has two digits for the month and for the day
of the month. -/
def isMoment (text : Text) : Bool :=
  match moment? text with
  | some moment => moment.time.isSome || text.length == 10
  | none => false

/-- The text without one line feed at its end. -/
def stem (text : Text) : Text :=
  if text.getLast? = some '\n' then text.dropLast else text

def tag (text : Text) : Tag :=
  let seen := stem text
  if seen.isEmpty then if text.isEmpty then .null else .text
  else if trueWords.contains seen || falseWords.contains seen then .bool
  else if isFloat seen then .float
  else if isInt seen then .int
  else if seen = ['<', '<'] then .merge
  else if nullWords.contains seen then .null
  else if isMoment seen then .timestamp
  else if seen = ['='] then .equals
  else .text

end PromptTemplate.Yaml.Look
