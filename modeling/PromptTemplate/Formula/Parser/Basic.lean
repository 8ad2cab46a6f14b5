import PromptTemplate.Formula.Expression
import PromptTemplate.Formula.Token.Basic

set_option autoImplicit false

namespace PromptTemplate.Formula.Parser

abbrev Reader := StateT (List Token) (Except Fault)

/-- Parts of the grammar that other parts hold, from loose to tight. -/
inductive Level where
  /-- One expression, or several with commas, some of them with a star. -/
  | items
  /-- An expression that may give its value a name. -/
  | named
  | choice
  | disjunction
  /-- What stands between comparisons. -/
  | operand
  /-- What stands behind a power sign. -/
  | factor
  | primary
  deriving DecidableEq, Repr

/-- The reader of every part of the grammar. -/
abbrev Inner := Level → Reader Expression

/-- The cause why tokens cannot be read on. -/
def faultAt : List Token → Fault
  | .fault cause _ :: _ => cause
  | .indent :: _ | .dedent :: _ => .indented
  | _ => .malformed

def unexpected {α : Type} : Reader α := fun tokens => .error (faultAt tokens)

def peek : Reader (Option Token) := fun tokens => .ok (tokens.head?, tokens)

def peekSecond : Reader (Option Token) := fun tokens => .ok (tokens[1]?, tokens)

def skip : Reader Unit := fun tokens => .ok ((), tokens.drop 1)

def isSymbol (mark : String) : Option Token → Bool
  | some (.symbol found) => found == mark
  | _ => false

def isWord (word : String) : Option Token → Bool
  | some (.keyword found) => found == word
  | _ => false

def isLineEnd : Option Token → Bool
  | some .lineEnd => true
  | _ => false

def atSymbol (mark : String) : Reader Bool := do return isSymbol mark (← peek)

/-- Whether the next token is a reserved word. -/
def atWord (word : String) : Reader Bool := do return isWord word (← peek)

def acceptIf (test : Option Token → Bool) : Reader Bool := do
  if test (← peek) then
    skip
    return true
  else return false

/-- Takes a symbol if it comes next. -/
def accept (mark : String) : Reader Bool := acceptIf (isSymbol mark)

/-- Takes a reserved word if it comes next. -/
def acceptWord (word : String) : Reader Bool := acceptIf (isWord word)

def expect (mark : String) : Reader Unit := do
  if !(← accept mark) then unexpected

def expectWord (word : String) : Reader Unit := do
  if !(← acceptWord word) then unexpected

def expectLineEnd : Reader Unit := do
  if !(← acceptIf isLineEnd) then unexpected

def identifier : Reader Text := do
  match ← peek with
  | some (.name label) => do
    skip
    return label
  | _ => unexpected

/-- Takes one of several symbols, if one comes next, and gives what stands for it. -/
def acceptAny {α : Type} (marks : List (String × α)) : Reader (Option α) := do
  match ← peek with
  | some (.symbol found) =>
    match marks.find? (·.1 == found) with
    | some (_, meaning) => do
      skip
      return some meaning
    | none => return none
  | _ => return none

/-- Repeats a step until it has nothing to do, so many times at most. -/
def repeatStep {α : Type} (step : α → Reader (Option α)) : Nat → α → Reader α
  | 0, result => pure result
  | count + 1, result => do
    match ← step result with
    | some next => repeatStep step count next
    | none => return result

/-- Repeats a step that takes tokens until it has nothing to do. -/
def loop {α : Type} (step : α → Reader (Option α)) (result : α) : Reader α := fun tokens =>
  repeatStep step (tokens.length + 1) result tokens

def opensExpression : Option Token → Bool
  | some (.number _) | some (.name _) | some (.text _) | some (.bytes _) | some (.template _ _)
  | some .broken => true
  | some (.keyword word) => ["None", "True", "False", "not", "lambda", "await"].contains word
  | some (.symbol mark) => ["(", "[", "\x7b", "+", "-", "~", "...", "*"].contains mark
  | _ => false

/-- Items with commas between them, perhaps with a comma behind the last one. The flag says whether there
is a comma. -/
def commaSeparated {α : Type} (item : Reader α) (opens : Option Token → Bool) :
    Reader (List α × Bool) := do
  let first ← item
  let step (found : List α × Bool) : Reader (Option (List α × Bool)) := do
    if found.2 && !opens (← peek) then return none
    if found.2 then return some ((← item) :: found.1, false)
    if ← accept "," then return some (found.1, true) else return none
  let (items, endsInComma) ← loop step ([first], false)
  return (items.reverse, endsInComma || 1 < items.length)

end PromptTemplate.Formula.Parser
