import PromptTemplate.Formula.Method.Text

set_option autoImplicit false

namespace PromptTemplate.Formula.BytesMethod

open TextMethod (plain allOf)

def isUpper (code : Nat) : Bool :=
  65 ≤ code && code ≤ 90

def isLower (code : Nat) : Bool :=
  97 ≤ code && code ≤ 122

def isDigit (code : Nat) : Bool :=
  48 ≤ code && code ≤ 57

def isAlphabetic (code : Nat) : Bool :=
  isUpper code || isLower code

/-- Bytes with each word in lower case behind a first letter. The flag says whether the byte before
belongs to a word. -/
def titleCase : Bool → Codes → Codes
  | _, [] => []
  | inWord, code :: rest =>
    (if inWord then Codes.lowerAscii code else Codes.upperAscii code) ::
      titleCase (isAlphabetic code) rest

/-- Bytes with the first one in upper case and the others in lower case. -/
def capitalize : Codes → Codes
  | [] => []
  | code :: rest => Codes.upperAscii code :: rest.map Codes.lowerAscii

def swapCase (code : Nat) : Nat :=
  if isUpper code then Codes.lowerAscii code else Codes.upperAscii code

/-- The text of bytes. Without bytes it is empty, whatever the encoding. -/
def decoded (codes : Codes) (arguments : Arguments) : Except Fault Operand := do
  let (name, rule) ← TextMethod.encodingNames arguments
  if codes.isEmpty then return .text []
  let encoding ← TextMethod.encodingOf name
  match encoding.decode rule codes with
  | .ok text => return .text text
  | .error fault => throw (TextMethod.encodingFault fault)

def hexDigit? (code : Nat) : Option Nat :=
  if isDigit code then some (code - 48)
  else
    let lowered := Codes.lowerAscii code
    if 97 ≤ lowered && lowered ≤ 102 then some (lowered - 87) else none

/-- The bytes that pairs of hexadecimal digits spell, with blanks between pairs. -/
def ofHex : Codes → Except Fault Codes
  | [] => .ok []
  | [code] => if Codes.isBlankByte code then .ok [] else .error .wrongValue
  | high :: low :: rest =>
    if Codes.isBlankByte high then ofHex (low :: rest)
    else match hexDigit? high, hexDigit? low with
      | some h, some l => (ofHex rest).map ((16 * h + l) :: ·)
      | _, _ => .error .wrongValue

def fromHex (arguments : Arguments) : Except Fault Operand := do
  match ← arguments.listed 1 1 with
  | digits :: _ => return .bytes (← ofHex (← digits.codes))
  | [] => throw .wrongType

/-- Groups of bytes, counted from the end or, for a negative width, from the start. -/
def hexGroups (width : Int) (codes : Codes) : List Codes :=
  if width < 0 then Codes.Encoding.groups width.natAbs codes
  else ((Codes.Encoding.groups width.natAbs codes.reverse).map List.reverse).reverse

def hexOf (codes : Codes) : Codes :=
  codes.flatMap fun code => Codes.ofText (Text.hexadecimal 2 code)

/-- The hexadecimal digits of bytes, perhaps with a separator between groups. -/
def toHex (codes : Codes) (arguments : Arguments) : Except Fault Operand := do
  let given ← arguments.bound ["sep", "bytes_per_sep"] 0 2
  let width ← match given[1]?.join with
    | some width => width.smallSize
    | none => pure 1
  match given[0]?.join with
  | none => return .text (hexOf codes)
  | some separator =>
    let separator ← match separator with
      | .text separator | .bytes separator => pure separator
      | _ => throw .wrongType
    if separator.length != 1 || separator.any (0x80 ≤ ·) then throw .wrongValue
    if width = 0 || codes.isEmpty then return .text (hexOf codes)
    return .text (Codes.join separator ((hexGroups width codes).map hexOf))

/-- A table of all bytes, with those of one run replaced by those of another. -/
def tableOf (arguments : Arguments) : Except Fault Operand := do
  match ← arguments.listed 2 2 with
  | old :: new :: _ =>
    let old ← RunKind.codesOfBytes old
    let new ← RunKind.codesOfBytes new
    if old.length != new.length then throw .wrongValue
    let pairs := (old.zip new).reverse
    return .bytes ((List.range 256).map fun (code : Nat) =>
      ((pairs.find? (·.1 == code)).map (·.2)).getD code)
  | _ => throw .wrongType

/-- Bytes replaced by a table, some of them left out. -/
def translated (codes : Codes) (arguments : Arguments) : Except Fault Operand := do
  let given ← arguments.bound ["", "delete"] 1 2
  let table ← match given[0]?.join.getD Operand.nothing with
    | .nothing => pure none
    | table => do
      let table ← RunKind.codesOfBytes table
      if table.length != 256 then throw .wrongValue
      pure (some table.toArray)
  let dropped ← match given[1]?.join with
    | some dropped => RunKind.codesOfBytes dropped
    | none => pure []
  let kept := codes.filter (!dropped.contains ·)
  match table with
  | some table => return .bytes (kept.map fun code => table[code]?.getD code)
  | none => return .bytes kept

def methods : List (String × (Codes → Arguments → Except Fault Operand)) :=
  [("capitalize", plain fun codes => .bytes (capitalize codes)),
    ("lower", plain fun codes => .bytes (codes.map Codes.lowerAscii)),
    ("upper", plain fun codes => .bytes (codes.map Codes.upperAscii)),
    ("title", plain fun codes => .bytes (titleCase false codes)),
    ("swapcase", plain fun codes => .bytes (codes.map swapCase)),
    ("isalnum", plain (allOf fun code => isAlphabetic code || isDigit code)),
    ("isalpha", plain (allOf isAlphabetic)),
    ("isascii", plain fun codes => .bool (codes.all (· < 0x80))),
    ("isdigit", plain (allOf isDigit)),
    ("islower", plain fun codes => .bool (Codes.isUpperRun isLower isUpper codes)),
    ("isspace", plain (allOf Codes.isBlankByte)),
    ("istitle", plain fun codes => .bool (Codes.isTitleRun isUpper isLower false false codes)),
    ("isupper", plain fun codes => .bool (Codes.isUpperRun isUpper isLower codes)),
    ("decode", decoded),
    ("fromhex", fun _ => fromHex),
    ("hex", toHex),
    ("maketrans", fun _ => tableOf),
    ("translate", translated)]

end PromptTemplate.Formula.BytesMethod
