import PromptTemplate.Decimal.Layout
import PromptTemplate.Text.Printable
import PromptTemplate.Value.Basic
import PromptTemplate.Yaml.Class
import PromptTemplate.Yaml.Look
import PromptTemplate.Yaml.Pen

set_option autoImplicit false

namespace PromptTemplate.Yaml

/-- Floats in YAML: as elsewhere, but a whole mantissa has a fraction, and infinity and what is no
number start with a point. -/
def floatLayout : Decimal.Layout :=
  { wholeMantissa := true, infinity := ".inf".toList, notANumber := ".nan".toList }

namespace Printer

/-- A text is folded at the first single space behind this column. -/
def width : Nat := 80

/-- How a text is written. -/
inductive Style where
  | plain
  | single
  | double
  deriving DecidableEq, Repr

/-! ### Choosing a style -/

/-- Whether a character needs an escape. -/
def isSpecial (c : Char) : Bool :=
  !(c == '\n' || (' ' ≤ c && c ≤ '~') ||
    ((c == '\u0085' || (0xA0 ≤ c.toNat && c.toNat ≤ 0xFFFD) ||
      (0x10000 ≤ c.toNat && c.toNat < 0x10FFFF)) && c != byteOrderMark))

/-- Whether a text starts with three dashes or three points. -/
def startsWithMark (text : Text) : Bool :=
  "---".toList.isPrefixOf text || "...".toList.isPrefixOf text

/-- Whether the first character of a text would not be read as text. -/
def opensOtherwise : Text → Bool
  | [] => false
  | c :: rest =>
    "#,[]\x7b\x7d&*!|>'\"%@\x60".toList.contains c ||
      ((c == '?' || c == ':' || c == '-') && startsBlank rest)

/-- Whether a text holds, behind its first character, a colon in front of a blank or the end, or a
number sign behind a blank. -/
def holdsMark : Text → Bool
  | previous :: c :: rest =>
    (c == ':' && startsBlank rest) || (c == '#' && isBlank previous) || holdsMark (c :: rest)
  | _ => false

/-- Whether a text holds a character of one class directly followed by one of another. -/
def holdsPair (first second : Char → Bool) : Text → Bool
  | c :: d :: rest => (first c && second d) || holdsPair first second (d :: rest)
  | _ => false

def isSpaceChar (c : Char) : Bool :=
  c == ' '

/-- Whether a text starts or ends with a character of a class. -/
def isEdged (p : Char → Bool) (text : Text) : Bool :=
  text.head?.any p || text.getLast?.any p

/-- Whether a text may be written plain, apart from what it would look like. -/
def allowsPlain (text : Text) : Bool :=
  !(text.any isSpecial || text.any isBreak || isEdged isSpaceChar text || startsWithMark text ||
    opensOtherwise text || holdsMark text)

def allowsSingle (text : Text) : Bool :=
  !(text.any isSpecial || holdsPair isBreak isSpaceChar text || holdsPair isSpaceChar isBreak text)

/-- The style of a text. A key on one line with its value holds no line end. -/
def styleOf (isKey : Bool) (text : Text) : Style :=
  if !text.isEmpty && Look.tag text == .text && allowsPlain text then .plain
  else if allowsSingle text && !(isKey && text.any isBreak) then .single
  else .double

/-! ### Writing texts -/

/-- A maximal run of characters of one sort at the start of a text, and what follows. -/
def leadingRun (sort : Char → Nat) : Text → Text × Text
  | [] => ([], [])
  | c :: rest => (c :: rest.takeWhile (sort · == sort c), rest.dropWhile (sort · == sort c))

/-- Spaces, line ends and other characters. -/
def sortOf (c : Char) : Nat :=
  if c = ' ' then 0 else if isBreak c then 1 else 2

def runs (text : Text) : List Text :=
  match text with
  | [] => []
  | c :: rest =>
    (leadingRun sortOf (c :: rest)).1 :: runs (rest.dropWhile (sortOf · == sortOf c))
termination_by text.length
decreasing_by
  exact Nat.lt_succ_of_le (List.dropWhile_suffix _).length_le

def plainRuns (mayFold : Bool) (column : Nat) (pen : Pen) (parts : List Text) : Pen :=
  parts.foldl (fun pen part =>
    if part = [' '] && width < pen.column && mayFold then (pen.toColumn column).settle
    else pen.write part) pen

def plainText (mayFold : Bool) (column : Nat) (text : Text) (pen : Pen) : Pen :=
  let spaced := if pen.isBlank then pen else pen.write [' ']
  plainRuns mayFold column spaced.settle (runs text)

/-- Writes line ends inside a quoted text: a line feed is an empty line more. -/
def quotedBreaks (column : Nat) (breaks : Text) (pen : Pen) : Pen :=
  let opened := if breaks.head? = some '\n' then pen.endLine else pen
  (breaks.foldl (fun pen c => pen.endLine c) opened).toColumn column

def singleRuns (mayFold : Bool) (column : Nat) : Bool → List Text → Pen → Pen
  | _, [], pen => pen
  | isFirst, part :: rest, pen =>
    let isSpaces := part.all isSpaceChar
    let next :=
      if part = [' '] && width < pen.column && mayFold && !isFirst && !rest.isEmpty then
        pen.toColumn column
      else if !isSpaces && part.all isBreak then quotedBreaks column part pen
      else pen.write (part.flatMap fun c => if c = '\'' then ['\'', '\''] else [c])
    singleRuns mayFold column false rest next

def singleText (mayFold : Bool) (column : Nat) (text : Text) (pen : Pen) : Pen :=
  (singleRuns mayFold column true (runs text) (pen.mark ['\''] true false)).mark ['\''] false false

def letterEscapes : List (Char × Char) :=
  [('\x00', '0'), ('\x07', 'a'), ('\x08', 'b'), ('\t', 't'), ('\n', 'n'), ('\x0b', 'v'),
    ('\x0c', 'f'), ('\r', 'r'), ('\x1b', 'e'), ('"', '"'), ('\\', '\\'), ('\u0085', 'N'),
    ('\u00a0', '_'), ('\u2028', 'L'), ('\u2029', 'P')]

/-- Whether a character is escaped between double quotes. -/
def isEscaped (c : Char) : Bool :=
  c == '"' || c == '\\' || c == '\u0085' || c == '\u2028' || c == '\u2029' || c == byteOrderMark ||
    !((' ' ≤ c && c ≤ '~') || (0xA0 ≤ c.toNat && c.toNat ≤ 0xFFFD))

def escape (c : Char) : Text :=
  match letterEscapes.find? (·.1 == c) with
  | some (_, letter) => ['\\', letter]
  | none =>
    let upper (width : Nat) : Text := (Text.hexadecimal width c.toNat).map Char.toUpper
    if c.toNat ≤ 0xFF then "\\x".toList ++ upper 2
    else if c.toNat ≤ 0xFFFF then "\\u".toList ++ upper 4
    else "\\U".toList ++ upper 8

/-- Writes the content of a text between double quotes: the characters of it from a position on, behind
those that are not written yet. -/
def doubleContent (mayFold : Bool) (column length : Nat) :
    Nat → Text → Text → Pen → Pen
  | _, held, [], pen => pen.write held
  | position, held, c :: rest, pen =>
    let isInside := 0 < position && position + 1 < length && mayFold
    if isEscaped c then
      let escaped := (pen.write held).write (escape c)
      let folded :=
        if isInside && width + 1 < escaped.column then
          let continued := ((escaped.write ['\\']).toColumn column).settle
          if startsSpace rest then continued.write ['\\'] else continued
        else escaped
      doubleContent mayFold column length (position + 1) [] rest folded
    else if isInside && (c == ' ' || held.isEmpty) && width < pen.column + held.length then
      let continued := ((pen.write (held ++ ['\\'])).toColumn column).settle
      let next := if c = ' ' then continued.write ['\\'] else continued
      doubleContent mayFold column length (position + 1) [c] rest next
    else doubleContent mayFold column length (position + 1) (held ++ [c]) rest pen

def doubleText (mayFold : Bool) (column : Nat) (text : Text) (pen : Pen) : Pen :=
  (doubleContent mayFold column text.length 0 [] text (pen.mark ['"'] true false)).mark ['"'] false
    false

def writeText (isKey : Bool) (column : Nat) (text : Text) (pen : Pen) : Pen :=
  match styleOf isKey text with
  | .plain => plainText (!isKey) column text pen
  | .single => singleText (!isKey) column text pen
  | .double => doubleText (!isKey) column text pen

/-! ### Writing values -/

/-- The text of a value that is neither text nor collection. -/
def scalarText : Value → Text
  | .null => "null".toList
  | .bool b => if b then "true".toList else "false".toList
  | .int n => Text.ofInt n
  | .float x => floatLayout.render x
  | .timestamp moment => moment.plain
  | _ => []

/-- Whether a key stands on one line with its value: a text that is neither empty nor long nor broken. -/
def isSimpleKey : Value → Bool
  | .text text => !text.isEmpty && !text.any isBreak && text.length < 123
  | .list _ | .map _ => false
  | _ => true

/-- The column of a block inside another one. -/
def inner : Option Nat → Nat
  | none => 0
  | some column => column + 2

/-- The column at which a text inside a block is folded. -/
def foldColumn : Option Nat → Nat
  | none => 2
  | some column => column + 2

mutual

def writeValue (column : Option Nat) (underKey : Bool) (value : Value) (pen : Pen) : Pen :=
  match value with
  | .text text => writeText false (foldColumn column) text pen
  | .list [] => pen.mark "[]".toList true false
  | .list (item :: rest) =>
    let itemColumn :=
      if underKey && !pen.isFresh then column.getD 0 else inner column
    writeItems itemColumn (item :: rest) pen
  | .map [] => pen.mark "\x7b\x7d".toList true false
  | .map (entry :: rest) => writeEntries (inner column) (entry :: rest) pen
  | value => plainText true (foldColumn column) (scalarText value) pen

def writeItems (column : Nat) (items : List Value) (pen : Pen) : Pen :=
  match items with
  | [] => pen
  | item :: rest =>
    let marked := (pen.toColumn column).mark ['-'] true true
    writeItems column rest (writeValue (some column) false item marked)

def writeEntries (column : Nat) (entries : List (Value × Value)) (pen : Pen) : Pen :=
  match entries with
  | [] => pen
  | (key, value) :: rest =>
    let started := pen.toColumn column
    let marked :=
      if isSimpleKey key then
        let keyed := match key with
          | .text text => writeText true (column + 2) text started
          | key => plainText false (column + 2) (scalarText key) started
        keyed.mark [':'] false false
      else
        let keyed := writeValue (some column) true key (started.mark ['?'] true true)
        (keyed.toColumn column).mark [':'] true true
    writeEntries column rest (writeValue (some column) true value marked)

end

end Printer

def print (value : Value) : Text :=
  ((Printer.writeValue none false value {}).toColumn 0).text

end PromptTemplate.Yaml
