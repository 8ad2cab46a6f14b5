import PromptTemplate.Codes.Encoding
import PromptTemplate.Formula.Method.Run
import PromptTemplate.Letter.Case
import PromptTemplate.Text.Identifier

set_option autoImplicit false

namespace PromptTemplate.Formula.TextMethod

open Letter

def plain (f : Codes → Operand) (codes : Codes) (arguments : Arguments) : Except Fault Operand := do
  let _ ← arguments.listed 0 0
  return f codes

def allOf (isMember : Nat → Bool) (codes : Codes) : Operand :=
  .bool (!codes.isEmpty && codes.all isMember)

def isIdentifier : Codes → Bool
  | [] => false
  | first :: rest =>
    let isPart (test : Char → Bool) (code : Nat) : Bool := code.isValidChar && test (Char.ofNat code)
    isPart Text.isIdentifierStart first && rest.all (isPart Text.isIdentifierPart)

def encodingFault : Codes.EncodingFault → Fault
  | .unencodable => .unencodable
  | .undecodable => .undecodable
  | .unknownName => .unknownEncoding

/-- A name of an encoding or of a rule, which holds neither the null character nor half a pair. -/
def encodingName (given : Option Operand) (standard : String) : Except Fault Codes := do
  match given with
  | none => return Codes.ofString standard
  | some given =>
    let name ← given.codes
    if name.any Codes.Encoding.isSurrogate then throw .unencodable
    if name.contains 0 then throw .wrongValue
    return name

def encodingNames (arguments : Arguments) : Except Fault (Codes × Codes) := do
  let given ← arguments.bound ["encoding", "errors"] 0 2
  let name ← encodingName given[0]?.join "utf-8"
  let rule ← encodingName given[1]?.join "strict"
  return (name, rule)

def encodingOf (name : Codes) : Except Fault Codes.Encoding :=
  match Codes.Encoding.ofName? name with
  | some encoding => .ok encoding
  | none => .error .unknownEncoding

def encoded (codes : Codes) (arguments : Arguments) : Except Fault Operand := do
  let (name, rule) ← encodingNames arguments
  let encoding ← encodingOf name
  match encoding.encode rule codes with
  | .ok bytes => return .bytes bytes
  | .error fault => throw (encodingFault fault)

/-- Puts an entry into a dictionary: in the place of its key, or at the end. -/
def insertEntry (key value : Operand) : List (Operand × Operand) → List (Operand × Operand)
  | [] => [(key, value)]
  | (other, held) :: rest =>
    if other.same key then (other, value) :: rest else (other, held) :: insertEntry key value rest

/-- The key of a table by a number or a single character. -/
def tableKey (key : Operand) : Except Fault Operand :=
  match key with
  | .text [code] => .ok (.int code)
  | .text _ => .error .wrongValue
  | key =>
    match key.int? with
    | some _ => .ok key
    | none => .error .wrongType

def tableOf (arguments : Arguments) : Except Fault Operand := do
  match ← arguments.listed 1 3 with
  | [.dict entries] =>
    let keyed ← entries.mapM fun (key, value) => do return (← tableKey key, value)
    return .dict (keyed.foldl (fun table (key, value) => insertEntry key value table) [])
  | first :: second :: dropped =>
    let second ← second.codes
    let dropped ← match dropped with
      | [] => pure []
      | dropped :: _ => dropped.codes
    let first ← first.codes
    if first.length != second.length then throw .wrongValue
    let number (code : Nat) : Operand := .int code
    let pairs := (first.zip second).map (fun (a, b) => (number a, number b)) ++
      dropped.map fun code => (number code, .nothing)
    return .dict (pairs.foldl (fun table (key, value) => insertEntry key value table) [])
  | _ => throw .wrongType

/-- What stands in the place of a character by a table. A character that the table does not know stays. -/
def translateOne (table : Operand) (code : Nat) : Except Fault Codes :=
  match table.item (.int code) with
  | .error .missingKey | .error .outOfRange => .ok [code]
  | .error fault => .error fault
  | .ok .nothing => .ok []
  | .ok (.text codes) => .ok codes
  | .ok found =>
    match found.int? with
    | some n => if 0 ≤ n && n < 0x110000 then .ok [n.toNat] else .error .wrongValue
    | none => .error .wrongType

/-- A text with its characters replaced by a table. -/
def translated (codes : Codes) (arguments : Arguments) : Except Fault Operand := do
  match ← arguments.listed 1 1 with
  | table :: _ => return .text (← codes.mapM (translateOne table)).flatten
  | [] => throw .wrongType

def methods : List (String × (Codes → Arguments → Except Fault Operand)) :=
  [("capitalize", plain fun codes => .text (Codes.capitalize codes)),
    ("casefold", plain fun codes => .text (Codes.caseFold codes)),
    ("lower", plain fun codes => .text (Codes.lower codes)),
    ("upper", plain fun codes => .text (Codes.upper codes)),
    ("title", plain fun codes => .text (Codes.titleCase codes)),
    ("swapcase", plain fun codes => .text (Codes.swapCase codes)),
    ("isalnum", plain (allOf isAlphanumeric)),
    ("isalpha", plain (allOf isAlphabetic)),
    ("isascii", plain fun codes => .bool (codes.all (· < 0x80))),
    ("isdecimal", plain (allOf isDecimal)),
    ("isdigit", plain (allOf isDigit)),
    ("isidentifier", plain fun codes => .bool (isIdentifier codes)),
    ("islower", plain fun codes =>
      .bool (Codes.isUpperRun isLower (fun code => isUpper code || isTitle code) codes)),
    ("isnumeric", plain (allOf isNumeric)),
    ("isprintable", plain fun codes => .bool (codes.all Codes.isPrintable)),
    ("isspace", plain (allOf Codes.isBlank)),
    ("istitle", plain fun codes =>
      .bool (Codes.isTitleRun (fun code => isUpper code || isTitle code) isLower false false codes)),
    ("isupper", plain fun codes =>
      .bool (Codes.isUpperRun isUpper (fun code => isLower code || isTitle code) codes)),
    ("encode", encoded),
    ("maketrans", fun _ => tableOf),
    ("translate", translated)]

end PromptTemplate.Formula.TextMethod
