import PromptTemplate.Formula.Parser.Pattern

set_option autoImplicit false

namespace PromptTemplate.Formula

inductive Statement where
  /-- An expression, or what an assignment assigns. -/
  | formula (value : Expression)
  | importing
  /-- A statement without a value. -/
  | form (label : String)

namespace Parser

/-! ### Expressions as statements -/

/-- The symbols that assign to a target together with an operator. -/
def assigningSymbols : List String :=
  ["+=", "-=", "*=", "/=", "//=", "%=", "@=", "&=", "|=", "^=", ">>=", "<<=", "**="]

/-- What an assignment assigns: items, or what a `yield` gives. -/
def assigned (inner : Inner) : Reader Expression := do
  if ← atWord "yield" then yielding inner else inner .items

def expressionStatement (inner : Inner) : Reader Statement := do
  let first ← assigned inner
  let token ← peek
  if assigningSymbols.any (isSymbol · token) then
    if !first.isSimpleTarget then unexpected
    skip
    return .formula (← assigned inner)
  else if isSymbol ":" token && first.isSimpleTarget then
    skip
    discard (inner .choice)
    if ← accept "=" then discard (assigned inner)
    return .form "AnnAssign"
  else
    let step (value : Expression) : Reader (Option Expression) := do
      if ← atSymbol "=" then
        if !value.usage.assignable then unexpected
        skip
        return some (← assigned inner)
      else return none
    return .formula (← loop step first)

/-! ### Simple statements -/

def nameList : Reader Unit := do
  discard identifier
  let step (_ : Unit) : Reader (Option Unit) := do
    if ← accept "," then
      discard identifier
      return some ()
    else return none
  loop step ()

def otherName : Reader Unit := do
  if ← acceptWord "as" then discard identifier

def modules : Reader Unit := do
  let one : Reader Unit := do
    discard dottedNames
    otherName
  one
  let step (_ : Unit) : Reader (Option Unit) := do
    if ← accept "," then
      one
      return some ()
    else return none
  loop step ()

/-- What is taken from a module: everything, or names, which may stand between parentheses. -/
def importedNames : Reader Unit := do
  let one : Reader Unit := do
    discard identifier
    otherName
  let opens (token : Option Token) : Bool :=
    match token with
    | some (.name _) => true
    | _ => false
  if ← accept "*" then return ()
  else if ← accept "(" then
    discard (commaSeparated one opens)
    expect ")"
  else
    one
    let step (_ : Unit) : Reader (Option Unit) := do
      if ← accept "," then
        one
        return some ()
      else return none
    loop step ()

/-- An import of names from a module, which may be given by its place. -/
def importFrom : Reader Statement := do
  let step (_ : Bool) : Reader (Option Bool) := do
    if ← accept "." then return some true
    else if ← accept "..." then return some true
    else return none
  let hasDots ← loop step false
  if !(hasDots && (← atWord "import")) then discard dottedNames
  expectWord "import"
  importedNames
  return .form "ImportFrom"

def deletion (inner : Inner) : Reader Statement := do
  let one : Reader Unit := do
    let found ← inner .primary
    if !found.usage.deletable then unexpected
  discard (commaSeparated one opensExpression)
  return .form "Delete"

def simpleStatement (inner : Inner) : Reader Statement := do
  match ← peek with
  | some (.keyword word) =>
    if word = "pass" then skip *> pure (.form "Pass")
    else if word = "break" then skip *> pure (.form "Break")
    else if word = "continue" then skip *> pure (.form "Continue")
    else if word = "import" then skip *> modules *> pure .importing
    else if word = "from" then skip *> importFrom
    else if word = "global" then skip *> nameList *> pure (.form "Global")
    else if word = "nonlocal" then skip *> nameList *> pure (.form "Nonlocal")
    else if word = "del" then skip *> deletion inner
    else if word = "return" then
      skip
      if opensExpression (← peek) then discard (inner .items)
      return .form "Return"
    else if word = "raise" then
      skip
      if opensExpression (← peek) then
        discard (inner .choice)
        if ← acceptWord "from" then discard (inner .choice)
      return .form "Raise"
    else if word = "assert" then
      skip
      discard (inner .choice)
      if ← accept "," then discard (inner .choice)
      return .form "Assert"
    else expressionStatement inner
  | _ => expressionStatement inner

def simpleLine (inner : Inner) : Reader Statement := do
  let first ← simpleStatement inner
  let step (_ : Unit) : Reader (Option Unit) := do
    if ← accept ";" then
      if isLineEnd (← peek) then return none
      discard (simpleStatement inner)
      return some ()
    else return none
  loop step ()
  expectLineEnd
  return first

/-! ### Blocks -/

/-- Whether tokens hold a fault that is told before all others. -/
def hasImmediateFault (tokens : List Token) : Bool :=
  match tokens.getLast? with
  | some (.fault _ isImmediate) => isImmediate
  | _ => false

/-- Fails where the lines of a block are missing. A place further on where the text cannot be cut may be
told first. -/
def missingBlock {α : Type} : Reader α := fun tokens =>
  match tokens with
  | .fault cause _ :: _ => .error cause
  | tokens => .error (if hasImmediateFault tokens then .malformed else .indented)

/-- Opens the lines of a block. -/
def expectIndent : Reader Unit := do
  match ← peek with
  | some .indent => skip
  | _ => missingBlock

/-- Closes the lines of a block. -/
def expectDedent : Reader Unit := do
  match ← peek with
  | some .dedent => skip
  | _ => unexpected

def atBlockEnd : Reader Bool := do
  match ← peek with
  | none | some .dedent => return true
  | _ => return false

/-- Statements up to the end of their block; the first one counts. -/
def statementList (statement : Reader Statement) : Reader Statement := do
  let first ← statement
  let step (_ : Unit) : Reader (Option Unit) := do
    if ← atBlockEnd then return none
    discard statement
    return some ()
  loop step ()
  return first

/-- What a statement holds behind a colon: indented lines, or simple statements on its own line. -/
def block (inner : Inner) (statement : Reader Statement) : Reader Unit := do
  expect ":"
  if ← acceptIf isLineEnd then
    expectIndent
    discard (statementList statement)
    expectDedent
  else discard (simpleLine inner)

def wordBlock (inner : Inner) (statement : Reader Statement) (word : String) : Reader Bool := do
  if ← acceptWord word then
    block inner statement
    return true
  else return false

/-! ### Statements with blocks -/

/-- A condition with its block and all that follows it. -/
def ifStatement (inner : Inner) (statement : Reader Statement) : Reader Statement := do
  skip
  discard (inner .named)
  block inner statement
  let step (_ : Unit) : Reader (Option Unit) := do
    if ← acceptWord "elif" then
      discard (inner .named)
      block inner statement
      return some ()
    else return none
  loop step ()
  discard (wordBlock inner statement "else")
  return .form "If"

/-- A block that is repeated under a condition. -/
def whileStatement (inner : Inner) (statement : Reader Statement) : Reader Statement := do
  skip
  discard (inner .named)
  block inner statement
  discard (wordBlock inner statement "else")
  return .form "While"

/-- A block that is repeated for items. -/
def forStatement (inner : Inner) (statement : Reader Statement) (label : String) :
    Reader Statement := do
  skip
  targets inner
  expectWord "in"
  discard (inner .items)
  block inner statement
  discard (wordBlock inner statement "else")
  return .form label

/-- A context, perhaps with a target. -/
def withItem (inner : Inner) : Reader Unit := do
  discard (inner .choice)
  if ← acceptWord "as" then target inner

/-- Contexts between parentheses up to the colon, which is not taken. -/
def withGroup (inner : Inner) : Reader Unit := do
  expect "("
  let opens (token : Option Token) : Bool := opensExpression token && !isSymbol "*" token
  discard (commaSeparated (withItem inner) opens)
  expect ")"
  if !(← atSymbol ":") then unexpected

/-- A block in contexts. Parentheses may stand around all of them, or belong to the first one. -/
def withStatement (inner : Inner) (statement : Reader Statement) (label : String) :
    Reader Statement := do
  skip
  let contexts : Reader Unit := fun tokens =>
    match withGroup inner tokens with
    | .ok result => .ok result
    | .error _ => discard (commaSeparated (withItem inner) fun _ => true) tokens
  contexts
  block inner statement
  return .form label

/-- A handler of errors with its block; the flag says whether it handles groups of errors. -/
def handler (inner : Inner) (statement : Reader Statement) : Reader Bool := do
  let isGroup ← accept "*"
  if isGroup || !(← atSymbol ":") then
    discard (inner .choice)
    otherName
  block inner statement
  return isGroup

/-- A block with handlers, or with a block that is run at the end. -/
def tryStatement (inner : Inner) (statement : Reader Statement) : Reader Statement := do
  skip
  block inner statement
  let step (found : List Bool) : Reader (Option (List Bool)) := do
    if ← acceptWord "except" then
      return some ((← handler inner statement) :: found)
    else return none
  let found ← loop step []
  if found.isEmpty then
    if !(← wordBlock inner statement "finally") then handlersMissing
    return .form "Try"
  else
    let isGroup := found.any id
    if isGroup && !found.all id then throw .malformed
    discard (wordBlock inner statement "else")
    discard (wordBlock inner statement "finally")
    return .form (if isGroup then "TryStar" else "Try")
where
  /-- Fails where a handler is missing. -/
  handlersMissing : Reader Unit := fun tokens =>
    match tokens with
    | .fault cause _ :: _ => .error cause
    | _ => .error .malformed

def classDefinition (inner : Inner) (statement : Reader Statement) : Reader Statement := do
  skip
  discard identifier
  if ← accept "(" then discard (arguments inner false)
  block inner statement
  return .form "ClassDef"

def functionDefinition (inner : Inner) (statement : Reader Statement) (label : String) :
    Reader Statement := do
  skip
  discard identifier
  expect "("
  parameters inner { closing := ")", annotated := true }
  expect ")"
  if ← accept "->" then discard (inner .choice)
  block inner statement
  return .form label

def asyncStatement (inner : Inner) (statement : Reader Statement) (isDecorated : Bool) :
    Reader Statement := do
  skip
  if ← atWord "def" then functionDefinition inner statement "AsyncFunctionDef"
  else if !isDecorated && (← atWord "with") then withStatement inner statement "AsyncWith"
  else if !isDecorated && (← atWord "for") then forStatement inner statement "AsyncFor"
  else unexpected

def decorated (inner : Inner) (statement : Reader Statement) : Reader Statement := do
  let step (_ : Unit) : Reader (Option Unit) := do
    if ← accept "@" then
      discard (inner .named)
      expectLineEnd
      return some ()
    else return none
  loop step ()
  if ← atWord "def" then functionDefinition inner statement "FunctionDef"
  else if ← atWord "class" then classDefinition inner statement
  else if ← atWord "async" then asyncStatement inner statement true
  else unexpected

/-! ### Matching -/

/-- Whether a name that is a word only in some places comes next. -/
def atSoftWord (word : String) : Reader Bool := do
  match ← peek with
  | some (.name label) => return label = word.toList
  | _ => return false

def matchSubject (inner : Inner) : Reader Unit := do
  skip
  let isStarred ← atSymbol "*"
  let (found, hasComma) ← commaSeparated (item inner true) opensExpression
  if isStarred && found.length = 1 && !hasComma then unexpected

/-- The value that is matched, with the colon and the line end behind it. -/
def matchHead (inner : Inner) : Reader Unit := do
  matchSubject inner
  expect ":"
  expectLineEnd

def caseBlock (inner : Inner) (statement : Reader Statement) (pattern : Reader Unit) :
    Reader Unit := do
  if !(← atSoftWord "case") then unexpected
  skip
  casePatterns pattern
  if ← acceptWord "if" then discard (inner .named)
  block inner statement

/-- The cases of a match, from the line behind its head on. -/
def cases (inner : Inner) (statement : Reader Statement) (pattern : Reader Unit) :
    Reader Statement := do
  expectIndent
  caseBlock inner statement pattern
  let step (_ : Unit) : Reader (Option Unit) := do
    if ← atSoftWord "case" then
      caseBlock inner statement pattern
      return some ()
    else return none
  loop step ()
  expectDedent
  return .form "Match"

/-- Whether tokens start with the head of a match that lacks its colon, and go on with indented lines. -/
def isMatchWithoutColon (inner : Inner) (tokens : List Token) : Bool :=
  match matchSubject inner tokens with
  | .ok (_, .lineEnd :: .indent :: _) => true
  | _ => false

/-- A match, if its head comes next; else a line of simple statements. -/
def softStatement (inner : Inner) (statement : Reader Statement) (pattern : Reader Unit) :
    Reader Statement := fun tokens =>
  match matchHead inner tokens with
  | .ok (_, rest) => cases inner statement pattern rest
  | .error _ =>
    if isMatchWithoutColon inner tokens then .error .malformed else simpleLine inner tokens

/-! ### All statements -/

def statementStep (inner : Inner) (pattern : Reader Unit) (statement : Reader Statement) :
    Reader Statement := do
  match ← peek with
  | some (.keyword word) =>
    if word = "if" then ifStatement inner statement
    else if word = "while" then whileStatement inner statement
    else if word = "for" then forStatement inner statement "For"
    else if word = "with" then withStatement inner statement "With"
    else if word = "try" then tryStatement inner statement
    else if word = "class" then classDefinition inner statement
    else if word = "def" then functionDefinition inner statement "FunctionDef"
    else if word = "async" then asyncStatement inner statement false
    else simpleLine inner
  | some (.symbol "@") => decorated inner statement
  | some (.name label) =>
    if label = "match".toList then softStatement inner statement pattern else simpleLine inner
  | _ => simpleLine inner

/-- A statement, as deep as a number allows. -/
def statement (inner : Inner) (pattern : Reader Unit) : Nat → Reader Statement
  | 0 => throw .unreadable
  | depth + 1 => statementStep inner pattern (statement inner pattern depth)

def program (inner : Inner) (pattern : Reader Unit) (depth : Nat) :
    List Token → Except Fault (Option Statement)
  | [] => .ok none
  | tokens => do
    let (first, rest) ← statementList (statement inner pattern depth) tokens
    if rest.isEmpty then return some first else throw (faultAt rest)

end Parser

end PromptTemplate.Formula
