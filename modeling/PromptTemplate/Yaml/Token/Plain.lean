import PromptTemplate.Yaml.Token.Lexer

set_option autoImplicit false

namespace PromptTemplate.Yaml.Lexer

def stopsPlain (inFlow : Bool) : Text → Bool
  | [] => true
  | c :: rest =>
    isBlank c ||
      (c == ':' && (startsBlank rest || (inFlow && match rest with
        | d :: _ => d == ',' || d == '[' || d == ']' || d == '\x7b' || d == '\x7d'
        | [] => false))) ||
      (inFlow && (c == ',' || c == '?' || c == '[' || c == ']' || c == '\x7b' || c == '\x7d'))

/-- The characters of a plain scalar up to a blank or what stops it. -/
def plainRun (inFlow : Bool) : Text → Text
  | [] => []
  | c :: rest => if stopsPlain inFlow (c :: rest) then [] else c :: plainRun inFlow rest

/-- The line ends among spaces and line ends, up to something else. At a document mark there is nothing. -/
def foldedBreaks (cursor : Cursor) : Option (Text × Cursor) :=
  match cursor.rest with
  | [] => some ([], cursor)
  | c :: _ =>
    if c = ' ' then
      if _shorter : cursor.next.rest.length < cursor.rest.length then foldedBreaks cursor.next
      else none
    else if isBreak c then
      if startsDocumentMark cursor.next.rest then none
      else if _shorter : cursor.next.rest.length < cursor.rest.length then
        (foldedBreaks cursor.next).map fun (breaks, behind) => (breakChar c :: breaks, behind)
      else none
    else some ([], cursor)
termination_by cursor.rest.length

/-- What a line end and the further ones behind it stand for: a single line feed is a space. -/
def foldBreaks (first : Char) (further : Text) : Text :=
  (if breakChar first != '\n' then [breakChar first] else if further.isEmpty then [' '] else []) ++
    further

/-- What the blanks between two parts of a plain scalar stand for, the position behind them, and whether
a line end is among them. -/
def plainBlanks (cursor : Cursor) : Text × Cursor × Bool :=
  let (spaces, behind) := cursor.takeWhile (· == ' ')
  match behind.rest with
  | [] => (spaces, behind, false)
  | c :: _ =>
    if isBreak c then
      if startsDocumentMark behind.next.rest then ([], behind.next, true)
      else match foldedBreaks behind.next with
        | none => ([], behind.next.skipWhile isBlank, true)
        | some (breaks, further) => (foldBreaks c breaks, further, true)
    else (spaces, behind, false)

def plainParts (inFlow : Bool) (indent : Int) (cursor : Cursor) (blanks : Text) (mayStartKey : Bool) :
    Text × Cursor × Bool :=
  let run := plainRun inFlow cursor.rest
  if run.isEmpty || run.head? == some '#' then ([], cursor, mayStartKey)
  else
    let (between, behind, sawBreak) := plainBlanks (cursor.skip run.length)
    let isComment := match behind.rest with
      | '#' :: _ => true
      | _ => false
    if between.isEmpty || isComment || (!inFlow && (behind.column : Int) < indent) then
      (blanks ++ run, behind, sawBreak)
    else if _shorter : behind.rest.length < cursor.rest.length then
      let (further, finish, mayStart) := plainParts inFlow indent behind between sawBreak
      (blanks ++ run ++ further, finish, mayStart)
    else (blanks ++ run, behind, sawBreak)
termination_by cursor.rest.length

def plainScalar (lexer : Lexer) : Except Fault Lexer := do
  let lexer ← lexer.keepPlace
  let (text, cursor, mayStartKey) :=
    plainParts lexer.inFlow (lexer.indent + 1) lexer.cursor [] false
  return { lexer.emitUpTo (.scalar text true) cursor with mayStartKey }

end PromptTemplate.Yaml.Lexer
