import PromptTemplate.Formula.Parser.Expression

set_option autoImplicit false

namespace PromptTemplate.Formula.Parser

def anyName : Text := ['_']

/-- Whether a symbol comes next that makes a name something else than a name for a value. -/
def atNameTrailer : Reader Bool := do
  let token ← peek
  return [".", "(", "="].any (isSymbol · token)

def captureName : Reader Unit := do
  let label ← identifier
  if label = anyName then throw .malformed
  if ← atNameTrailer then unexpected

/-- A number, perhaps behind a minus sign, or a real number with an imaginary one. -/
def signedNumber : Reader Unit := do
  discard (accept "-")
  let first ← number
  if ← acceptEither then
    let second ← number
    if first || !second then throw .malformed
where
  /-- A number, and whether it is imaginary. -/
  number : Reader Bool := do
    match ← peek with
    | some (.number value) => do
      skip
      return value.isComplex
    | _ => unexpected
  /-- Takes a plus or a minus sign, if one comes next. -/
  acceptEither : Reader Bool := do
    if ← accept "+" then return true else accept "-"

def atPatternLiteral : Reader Bool := do
  let token ← peek
  return literal? token || isSymbol "-" token ||
    ["None", "True", "False"].any (isWord · token) ||
    (match token with
      | some (.number _) => true
      | _ => false)

def patternLiteral (inner : Inner) : Reader Unit := do
  let token ← peek
  if literal? token then discard (literals inner)
  else if ["None", "True", "False"].any (isWord · token) then skip
  else signedNumber

def dottedNames : Reader (Text × Bool) := do
  let first ← identifier
  let step (_ : Bool) : Reader (Option Bool) := do
    if ← accept "." then
      discard identifier
      return some true
    else return none
  return (first, ← loop step false)

/-- Items with commas between them up to a closing symbol, which is taken, and whether there is a comma. -/
def itemsUntil (item : Reader Unit) (close : String) : Reader Bool := do
  let step (state : Bool × Bool) : Reader (Option (Bool × Bool)) := do
    if ← atSymbol close then return none
    if !state.2 then unexpected
    item
    let comma ← accept ","
    return some (state.1 || comma, comma)
  let (hasComma, _) ← loop step (false, true)
  expect close
  return hasComma

def starPattern (pattern : Reader Unit) : Reader Bool := do
  if ← accept "*" then
    match ← peek with
    | some (.name label) => if label = anyName then skip else captureName
    | _ => unexpected
    return true
  else
    pattern
    return false

/-- A pattern between parentheses, or a sequence of patterns, from behind the opening one on. -/
def groupPattern (pattern : Reader Unit) : Reader Unit := do
  if ← accept ")" then return ()
  let isStarred ← starPattern pattern
  if ← accept "," then discard (itemsUntil (discard (starPattern pattern)) ")")
  else if isStarred then unexpected
  else expect ")"

/-- What has been read of the items of a mapping or a class. -/
structure ItemState where
  /-- Whether an item has been read behind which the plain ones may not come. -/
  isLate : Bool := false
  isOpen : Bool := true

/-- An entry of a mapping: a literal or a dotted name with a pattern, or a name behind a double star. -/
def mappingItem (inner : Inner) (pattern : Reader Unit) (state : ItemState) : Reader ItemState := do
  if state.isLate then unexpected
  if ← accept "**" then
    captureName
    return { state with isLate := true }
  else
    if ← atPatternLiteral then patternLiteral inner
    else
      let (_, isDotted) ← dottedNames
      if !isDotted then unexpected
    expect ":"
    pattern
    return state

def classItem (pattern : Reader Unit) (state : ItemState) : Reader ItemState := do
  if ← atNamedArgument then
    discard identifier
    expect "="
    pattern
    return { state with isLate := true }
  else
    if state.isLate then unexpected
    pattern
    return state

/-- Items that know what came before them, up to a closing symbol, which is taken. -/
def orderedItems (item : ItemState → Reader ItemState) (close : String) : Reader Unit := do
  let step (state : ItemState) : Reader (Option ItemState) := do
    if ← atSymbol close then return none
    if !state.isOpen then unexpected
    let next ← item state
    let isOpen ← accept ","
    return some { next with isOpen }
  discard (loop step {})
  expect close

/-- A name that takes a value, a value by its dotted name, or a class. -/
def namePattern (pattern : Reader Unit) : Reader Unit := do
  if (← peekName) = some anyName then skip
  else
    let _ ← dottedNames
    if ← accept "(" then orderedItems (classItem pattern) ")"
    else if ← atNameTrailer then unexpected
where
  /-- The name that comes next. -/
  peekName : Reader (Option Text) := do
    match ← peek with
    | some (.name label) => return some label
    | _ => return none

def closedPattern (inner : Inner) (pattern : Reader Unit) : Reader Unit := do
  if ← atPatternLiteral then patternLiteral inner
  else if ← accept "(" then groupPattern pattern
  else if ← accept "[" then discard (itemsUntil (discard (starPattern pattern)) "]")
  else if ← accept "\x7b" then orderedItems (mappingItem inner pattern) "\x7d"
  else namePattern pattern

/-- Alternatives, which may be given a name. -/
def patternStep (inner : Inner) (pattern : Reader Unit) : Reader Unit := do
  closedPattern inner pattern
  let step (_ : Unit) : Reader (Option Unit) := do
    if ← accept "|" then
      closedPattern inner pattern
      return some ()
    else return none
  loop step ()
  if ← acceptWord "as" then captureName

/-- A pattern, as deep as a number allows. -/
def pattern (inner : Inner) : Nat → Reader Unit
  | 0 => throw .unreadable
  | depth + 1 => patternStep inner (pattern inner depth)

def casePatterns (pattern : Reader Unit) : Reader Unit := do
  let isStarred ← starPattern pattern
  if ← accept "," then
    let opens (token : Option Token) : Bool :=
      !isSymbol ":" token && !isWord "if" token
    if opens (← peek) then
      discard (commaSeparated (discard (starPattern pattern)) opens)
  else if isStarred then unexpected

end PromptTemplate.Formula.Parser
