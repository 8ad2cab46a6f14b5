import PromptTemplate.Diagnostic
import PromptTemplate.Text.Basic

set_option autoImplicit false

namespace PromptTemplate.Bracket

structure Group where
  before : Text
  after : Text
  options : List Text
  /-- The text between the brackets as it was written. -/
  raw : Text
  deriving DecidableEq, Repr

inductive Fault where
  | unclosed
  | unopened
  | several
  | blank
  | reversed
  | absent
  deriving DecidableEq, Repr

def Fault.message : Fault → String
  | .unclosed | .reversed => "Missing closing bracket ]"
  | .unopened => "Missing opening bracket ["
  | .several => "Multiple brackets not supported"
  | .blank => "Empty brackets"
  | .absent => "No bracket group found"

def Fault.suggestion : Fault → String
  | .unclosed => "Add ] to close your options"
  | .unopened => "Add [ before your options"
  | .several => "Use only one [option1, option2] per prompt"
  | .blank => "Add options inside brackets: [option1, option2]"
  | .reversed => "Add ] after your options"
  | .absent => "Use [option1, option2]"

def Fault.validation (fault : Fault) : Validation :=
  { isValid := false, error := some fault.message, suggestion := some fault.suggestion }

def isBracket (c : Char) : Bool :=
  c == '[' || c == ']'

/-- What stands before, between and behind the first opening bracket and the next bracket, if that one
closes. -/
def cut? (text : Text) : Option (Text × Text × Text) :=
  match text.dropWhile (· != '[') with
  | [] => none
  | _ :: opened =>
    match opened.dropWhile (!isBracket ·) with
    | ']' :: after => some (text.takeWhile (· != '['), opened.takeWhile (!isBracket ·), after)
    | _ => none

/-- The trimmed items of a comma separated list that are not empty. -/
def splitOptions (inner : Text) : List Text :=
  ((Text.splitOn ',' inner).map Text.trim).filter (!·.isEmpty)

/-- The first fault of a text's brackets: more opening than closing ones, more closing than opening
ones, more than one pair, a pair around blank text, a pair the wrong way round. -/
def fault? (text : Text) : Option Fault :=
  let opens := text.count '['
  let closes := text.count ']'
  if closes < opens then some .unclosed
  else if opens < closes then some .unopened
  else if 1 < opens then some .several
  else match cut? text with
    | some (_, inner, _) => if Text.isBlank inner then some .blank else none
    | none => if opens = 1 then some .reversed else none

def validate (text : Text) : Validation :=
  match fault? text with
  | some fault => fault.validation
  | none => .passed

def group? (text : Text) : Except Fault Group :=
  match fault? text with
  | some fault => .error fault
  | none =>
    match cut? text with
    | some (before, raw, after) => .ok ⟨before, after, splitOptions raw, raw⟩
    | none => .error .absent

end PromptTemplate.Bracket
