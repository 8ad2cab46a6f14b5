import PromptTemplate.Formula.Parser.Parameters
import PromptTemplate.Formula.Parser.Template

set_option autoImplicit false

namespace PromptTemplate.Formula.Parser

/-! ### Items -/

/-- A name and the value that it is given inside an expression, if they come next. -/
def naming? (inner : Inner) : Reader (Option Expression) := do
  match ← peek, ← peekSecond with
  | some (.name _), some (.symbol ":=") => do
    skip
    skip
    discard (inner .choice)
    return some (.plainForm "NamedExpr")
  | _, _ => return none

/-- An item: an operand behind a star, or an expression, which may be given a name. -/
def item (inner : Inner) (mayName : Bool) : Reader Expression := do
  if ← accept "*" then return .starred (← inner .operand)
  else if mayName then inner .named else inner .choice

def items (inner : Inner) : Reader Expression := do
  match ← commaSeparated (item inner false) opensExpression with
  | ([one], false) => return one
  | (found, _) => return .sequence "Tuple" found

def furtherItems (inner : Inner) (first : Expression) : Reader (List Expression) := do
  let step (found : List Expression × Bool) : Reader (Option (List Expression × Bool)) := do
    if found.2 then
      if opensExpression (← peek) then return some ((← item inner true) :: found.1, false)
      else return none
    else if ← accept "," then return some (found.1, true)
    else return none
  let (found, _) ← loop step ([first], false)
  return found.reverse

/-! ### Comprehensions -/

/-- Whether a clause of a comprehension comes next. -/
def atClause : Reader Bool := do return (← atWord "for") || (← atWord "async")

def target (inner : Inner) : Reader Unit := do
  discard (accept "*")
  let found ← inner .primary
  if !found.usage.assignable then unexpected

def targets (inner : Inner) : Reader Unit :=
  discard (commaSeparated (target inner) opensExpression)

def clause (inner : Inner) : Reader Unit := do
  discard (acceptWord "async")
  expectWord "for"
  targets inner
  expectWord "in"
  discard (inner .disjunction)
  let condition (_ : Unit) : Reader (Option Unit) := do
    if ← acceptWord "if" then
      discard (inner .disjunction)
      return some ()
    else return none
  loop condition ()

def clauses (inner : Inner) : Reader Unit := do
  clause inner
  let further (_ : Unit) : Reader (Option Unit) := do
    if ← atClause then
      clause inner
      return some ()
    else return none
  loop further ()

def comprehension (inner : Inner) (label close : String) : Reader Expression := do
  clauses inner
  expect close
  return .plainForm label

/-! ### Brackets -/

def yielding (inner : Inner) : Reader Expression := do
  expectWord "yield"
  if ← acceptWord "from" then
    discard (inner .choice)
    return .plainForm "YieldFrom"
  else
    if opensExpression (← peek) then discard (inner .items)
    return .plainForm "Yield"

def parenthesised (inner : Inner) : Reader Expression := do
  if ← accept ")" then return .sequence "Tuple" []
  else if ← atWord "yield" then
    let yielded ← yielding inner
    expect ")"
    return yielded
  else
    let isStarred ← atSymbol "*"
    let first ← item inner true
    if !isStarred && (← atClause) then comprehension inner "GeneratorExp" ")"
    else if ← atSymbol "," then
      let found ← furtherItems inner first
      expect ")"
      return .sequence "Tuple" found
    else if isStarred then unexpected
    else
      expect ")"
      return first

def list (inner : Inner) : Reader Expression := do
  if ← accept "]" then return .sequence "List" []
  let isStarred ← atSymbol "*"
  let first ← item inner true
  if !isStarred && (← atClause) then comprehension inner "ListComp" "]"
  else
    let found ← furtherItems inner first
    expect "]"
    return .sequence "List" found

/-- An entry of a dictionary: a key with its value, or a dictionary behind a double star. -/
def entry (inner : Inner) : Reader Unit := do
  if ← accept "**" then discard (inner .operand)
  else
    discard (inner .choice)
    expect ":"
    discard (inner .choice)

/-- The entries of a dictionary behind the first one, with the closing brace. -/
def furtherEntries (inner : Inner) : Reader Expression := do
  let opens (token : Option Token) : Bool :=
    isSymbol "**" token || (opensExpression token && !isSymbol "*" token)
  if ← accept "," then
    if opens (← peek) then discard (commaSeparated (entry inner) opens)
  expect "\x7d"
  return .plainForm "Dict"

/-- A set or a dictionary, from behind the opening brace on. -/
def braces (inner : Inner) : Reader Expression := do
  if ← accept "\x7d" then return .plainForm "Dict"
  else if ← atSymbol "**" then
    entry inner
    furtherEntries inner
  else
    let isStarred ← atSymbol "*"
    match ← naming? inner with
    | some named => setFrom named isStarred
    | none =>
      let first ← item inner false
      if isStarred then setFrom first isStarred
      else if ← accept ":" then
        discard (inner .choice)
        if ← atClause then comprehension inner "DictComp" "\x7d" else furtherEntries inner
      else setFrom first isStarred
where
  /-- A set, from behind its first item on. -/
  setFrom (first : Expression) (isStarred : Bool) : Reader Expression := do
    if !isStarred && (← atClause) then comprehension inner "SetComp" "\x7d"
    else
      discard (furtherItems inner first)
      expect "\x7d"
      return .plainForm "Set"

/-! ### Literals and names -/

def literal? : Option Token → Bool
  | some (.text _) | some (.bytes _) | some (.template _ _) | some .broken => true
  | _ => false

def literalParts (inner : Inner) : Token → Except Fault (Bool × List Expression)
  | .text codes => .ok (false, [.constant (.text codes)])
  | .bytes codes => .ok (true, [.constant (.bytes codes)])
  | .template isRaw content => do return (false, [.joined (← template inner isRaw content)])
  | _ => .error .malformed

def mergeLiterals (isBytes : Bool) (parts : List Expression) : Expression :=
  let codes := parts.filterMap fun part =>
    match part with
    | .constant (.text codes) | .constant (.bytes codes) => some codes
    | _ => none
  if codes.length = parts.length then
    .constant (if isBytes then .bytes codes.flatten else .text codes.flatten)
  else
    .joined (parts.flatMap fun part =>
      match part with
      | .joined inner => inner
      | part => [part])

/-- Literals one behind the other; texts and bytes do not go together. -/
def literals (inner : Inner) : Reader Expression := do
  let step (found : List (Bool × List Expression)) :
      Reader (Option (List (Bool × List Expression))) := do
    let token ← peek
    if literal? token then
      skip
      return some ((← literalParts inner (token.getD .broken)) :: found)
    else return none
  let found := (← loop step []).reverse
  let isBytes := found.any (·.1)
  if isBytes && !found.all (·.1) then throw .malformed
  return mergeLiterals isBytes (found.flatMap (·.2))

/-- A literal, a name, or something between brackets. -/
def atom (inner : Inner) : Reader Expression := do
  let token ← peek
  if literal? token then literals inner
  else match token with
    | some (.number value) => do
      skip
      return .constant value
    | some (.name label) => do
      skip
      return .name label
    | some (.keyword word) =>
      if word = "True" then skip *> pure (.constant (.bool true))
      else if word = "False" then skip *> pure (.constant (.bool false))
      else if word = "None" then skip *> pure (.constant .nothing)
      else unexpected
    | some (.symbol mark) =>
      if mark = "..." then skip *> pure (.constant .ellipsis)
      else if mark = "(" then skip *> parenthesised inner
      else if mark = "[" then skip *> list inner
      else if mark = "\x7b" then skip *> braces inner
      else unexpected
    | _ => unexpected

/-! ### Trailers -/

/-- The arguments of a call that have been read, last ones first. -/
structure ArgumentState where
  positional : List Expression := []
  named : List (Option Text × Expression) := []
  /-- Whether a double star has been read. -/
  hasDouble : Bool := false
  /-- Whether an argument may come next. -/
  isOpen : Bool := true

def atNamedArgument : Reader Bool := do
  match ← peek, ← peekSecond with
  | some (.name _), some (.symbol "=") => return true
  | _, _ => return false

/-- One argument. One given by place does not follow one given by a name, and one behind a star does not
follow one behind a double star. -/
def argument (inner : Inner) (state : ArgumentState) : Reader ArgumentState := do
  if ← accept "**" then
    return { state with named := (none, ← inner .choice) :: state.named, hasDouble := true }
  else if ← accept "*" then
    if state.hasDouble then unexpected
    return { state with positional := .starred (← inner .choice) :: state.positional }
  else if ← atNamedArgument then
    let label ← identifier
    expect "="
    return { state with named := (some label, ← inner .choice) :: state.named }
  else
    if !state.named.isEmpty then unexpected
    return { state with positional := (← inner .named) :: state.positional }

/-- Arguments up to the closing bracket, which is taken. A single argument may be a comprehension where
the flag allows it. -/
def arguments (inner : Inner) (mayComprehend : Bool) :
    Reader (List Expression × List (Option Text × Expression)) := do
  let isPlain := !(← atSymbol "*") && !(← atSymbol "**") && !(← atNamedArgument)
  let step (state : ArgumentState) : Reader (Option ArgumentState) := do
    if ← atSymbol ")" then return none
    if !state.isOpen then unexpected
    let next ← argument inner state
    if mayComprehend && isPlain && next.positional.length = 1 && next.named.isEmpty &&
        (← atClause) then
      clauses inner
      return some { next with positional := [.plainForm "GeneratorExp"], isOpen := false }
    else
      let isOpen ← accept ","
      return some { next with isOpen }
  let state ← loop step {}
  expect ")"
  return (state.positional.reverse, state.named.reverse)

/-- An index, a slice or a starred expression between square brackets. -/
def sliceItem (inner : Inner) : Reader Expression := do
  if ← accept "*" then return .starred (← inner .choice)
  match ← naming? inner with
  | some named => return named
  | none =>
    let first ← optional [":"]
    if ← accept ":" then
      let last ← optional [":", ",", "]"]
      let step ← if ← accept ":" then optional [",", "]"] else pure none
      return .slice first last step
    else match first with
      | some index => return index
      | none => unexpected
where
  /-- An expression, unless one of some symbols comes next. -/
  optional (marks : List String) : Reader (Option Expression) := do
    let token ← peek
    if marks.any (isSymbol · token) then return none else return some (← inner .choice)

/-- What stands between square brackets, with the closing one. -/
def index (inner : Inner) : Reader Expression := do
  let isStarred ← atSymbol "*"
  let opens (token : Option Token) : Bool := isSymbol ":" token || opensExpression token
  let (found, hasComma) ← commaSeparated (sliceItem inner) opens
  expect "]"
  match found, hasComma || isStarred with
  | [one], false => return one
  | found, _ => return .sequence "Tuple" found

def primary (inner : Inner) : Reader Expression := do
  let trailer (owner : Expression) : Reader (Option Expression) := do
    if ← accept "." then return some (.attribute owner (← identifier))
    else if ← accept "(" then
      let (positional, named) ← arguments inner true
      return some (.call owner positional named)
    else if ← accept "[" then return some (.subscript owner (← index inner))
    else return none
  loop trailer (← atom inner)

/-! ### Operators -/

/-- A primary behind `await`, or a primary alone. -/
def awaited (inner : Inner) : Reader Expression := do
  if ← acceptWord "await" then
    discard (primary inner)
    return .plainForm "Await"
  else primary inner

def power (inner : Inner) : Reader Expression := do
  let base ← awaited inner
  if ← accept "**" then return .binary .pow base (← inner .factor) else return base

def signs : List (String × Sign) :=
  [("+", .plus), ("-", .minus), ("~", .undefined)]

def factor (inner : Inner) : Reader Expression := do
  let step (found : List Sign) : Reader (Option (List Sign)) := do
    return (← acceptAny signs).map (· :: found)
  let found ← loop step []
  return found.foldl (fun operand sign => .signed sign operand) (← power inner)

/-- The operators between two operands, from loose to tight. -/
def operatorLevels : List (List (String × Operator)) :=
  [[("|", .undefined)], [("^", .undefined)], [("&", .undefined)],
    [("<<", .undefined), (">>", .undefined)], [("+", .add), ("-", .sub)],
    [("*", .mul), ("/", .div), ("//", .undefined), ("%", .undefined), ("@", .undefined)]]

/-- Operands joined by operators of some levels, each of which joins from the left. -/
def binary (inner : Inner) : List (List (String × Operator)) → Reader Expression
  | [] => factor inner
  | level :: tighter => do
    let first ← binary inner tighter
    let step (left : Expression) : Reader (Option Expression) := do
      match ← acceptAny level with
      | some operator => return some (.binary operator left (← binary inner tighter))
      | none => return none
    loop step first

def operand (inner : Inner) : Reader Expression :=
  binary inner operatorLevels

/-- Takes a comparison sign, if one comes next. -/
def acceptComparison : Reader Bool := do
  let token ← peek
  if ["==", "!=", "<", ">", "<=", ">="].any (isSymbol · token) then
    skip
    return true
  else if ← acceptWord "in" then return true
  else if ← acceptWord "is" then
    discard (acceptWord "not")
    return true
  else if isWord "not" token && isWord "in" (← peekSecond) then
    skip
    skip
    return true
  else return false

def comparison (inner : Inner) : Reader Expression := do
  let first ← operand inner
  if ← acceptComparison then
    let second ← operand inner
    let step (_ : Unit) : Reader (Option Unit) := do
      if ← acceptComparison then
        discard (operand inner)
        return some ()
      else return none
    loop step ()
    return .comparison first second
  else return first

def inversion (inner : Inner) : Reader Expression := do
  let step (count : Nat) : Reader (Option Nat) := do
    if ← acceptWord "not" then return some (count + 1) else return none
  let count ← loop step 0
  return count.repeat (.signed .undefined) (← comparison inner)

def joinedBy (word : String) (reader : Reader Expression)
    (join : List Expression → Expression) : Reader Expression := do
  let first ← reader
  let step (found : List Expression) : Reader (Option (List Expression)) := do
    if ← acceptWord word then return some ((← reader) :: found) else return none
  match ← loop step [first] with
  | [one] => return one
  | found => return join found.reverse

def conjunction (inner : Inner) : Reader Expression :=
  joinedBy "and" (inversion inner) .both

def disjunction (inner : Inner) : Reader Expression :=
  joinedBy "or" (conjunction inner) .either

def function (inner : Inner) : Reader Expression := do
  expectWord "lambda"
  parameters inner { closing := ":", annotated := false }
  expect ":"
  discard (inner .choice)
  return .plainForm "Lambda"

/-- A function, or a disjunction that may be chosen by another one. -/
def choice (inner : Inner) : Reader Expression := do
  if ← atWord "lambda" then function inner
  else
    let value ← disjunction inner
    if ← acceptWord "if" then
      let test ← disjunction inner
      expectWord "else"
      return .conditional test value (← inner .choice)
    else return value

/-- A choice that may give its value a name. -/
def named (inner : Inner) : Reader Expression := do
  match ← naming? inner with
  | some named => return named
  | none => choice inner

def part (inner : Inner) : Level → Reader Expression
  | .items => items inner
  | .named => named inner
  | .choice => choice inner
  | .disjunction => disjunction inner
  | .operand => operand inner
  | .factor => factor inner
  | .primary => primary inner

/-- The reader of each part, as deep as a number allows. -/
def expression : Nat → Inner
  | 0, _ => throw .unreadable
  | depth + 1, level => part (expression depth) level

end PromptTemplate.Formula.Parser
