import PromptTemplate.Yaml.Token.Lexer

set_option autoImplicit false

namespace PromptTemplate.Yaml.Lexer

/-- What becomes of the line ends at the end of a block scalar. -/
inductive Chomping where
  | strip
  | clip
  | keep
  deriving DecidableEq, Repr

def chompingOf? : Text → Option Chomping
  | '+' :: _ => some .keep
  | '-' :: _ => some .strip
  | _ => none

def digitAt? (cursor : Cursor) : Option Nat :=
  match cursor.rest with
  | c :: _ => if c.isDigit then some (c.toNat - '0'.toNat) else none
  | [] => none

/-- The extra indentation at a position, if one is given, and the position behind it. It is not zero. -/
def blockIndent (since : Mark) (cursor : Cursor) : Except Fault (Option Nat × Cursor) :=
  match digitAt? cursor with
  | some 0 => refuse .blockScalar since .zeroIndentation cursor.mark
  | some extra => .ok (some extra, cursor.next)
  | none => .ok (none, cursor)

/-- The chomping and the extra indentation at the start of a block scalar, in either order. -/
def blockHeader (since : Mark) (cursor : Cursor) : Except Fault (Chomping × Option Nat × Cursor) := do
  let (chomping, extra, behind) ← match chompingOf? cursor.rest with
    | some chomping => do
      let (extra, behind) ← blockIndent since cursor.next
      pure (chomping, extra, behind)
    | none => do
      let (extra, behind) ← blockIndent since cursor
      match extra, chompingOf? behind.rest with
      | some _, some chomping => pure (chomping, extra, behind.next)
      | _, _ => pure (.clip, extra, behind)
  if startsSpaceOrBreak behind.rest then return (chomping, extra, behind)
  else
    refuse .blockScalar since (.expected "chomping or indentation indicators" behind.here)
      behind.mark

/-- The line ends in front of the first line of a block scalar, and the largest column that the spaces
among them reach. -/
def leadingBlanks (cursor : Cursor) (widest : Nat) : Text × Nat × Cursor :=
  match cursor.rest with
  | [] => ([], widest, cursor)
  | c :: _ =>
    if _shorter : cursor.next.rest.length < cursor.rest.length then
      if c = ' ' then leadingBlanks cursor.next (max widest cursor.next.column)
      else if isBreak c then
        let (breaks, width, behind) := leadingBlanks cursor.next widest
        (breakChar c :: breaks, width, behind)
      else ([], widest, cursor)
    else ([], widest, cursor)
termination_by cursor.rest.length

def skipIndent (column : Nat) (cursor : Cursor) : Cursor :=
  cursor.skip (min (cursor.rest.takeWhile (· == ' ')).length (column - cursor.column))

/-- The line ends in front of a further line of a block scalar at a column. -/
def blockBreaks (column : Nat) (cursor : Cursor) : Text × Cursor :=
  let behind := skipIndent column cursor
  match behind.rest with
  | [] => ([], behind)
  | c :: _ =>
    if isBreak c then
      if _shorter : behind.next.rest.length < cursor.rest.length then
        let (breaks, finish) := blockBreaks column behind.next
        (breakChar c :: breaks, finish)
      else ([], behind)
    else ([], behind)
termination_by cursor.rest.length

def startsIndented : Text → Bool
  | c :: _ => c == ' ' || c == '\t'
  | [] => false

/-- The lines of a block scalar at a column: the content, the last line end, the line ends behind it,
and the position there. -/
def blockLines (isFolded : Bool) (column : Nat) (cursor : Cursor) (breaks : Text) :
    Text × Text × Text × Cursor :=
  if cursor.column == column && !cursor.rest.isEmpty then
    let startsFlush := !startsIndented cursor.rest
    let (line, behindLine) := cursor.takeWhile (!isBreak ·)
    let (lineEnd, behind) := match behindLine.rest with
      | c :: _ => ([breakChar c], behindLine.next)
      | [] => ([], behindLine)
    let (further, start) := blockBreaks column behind
    if start.column == column && !start.rest.isEmpty then
      let joint :=
        if isFolded && lineEnd == ['\n'] && startsFlush && !startsIndented start.rest then
          if further.isEmpty then [' '] else []
        else lineEnd
      if _shorter : start.rest.length < cursor.rest.length then
        let (content, last, trailing, finish) := blockLines isFolded column start further
        (breaks ++ line ++ joint ++ content, last, trailing, finish)
      else (breaks ++ line, lineEnd, further, start)
    else (breaks ++ line, lineEnd, further, start)
  else ([], [], breaks, cursor)
termination_by cursor.rest.length

def blockScalar (lexer : Lexer) (isFolded : Bool) : Except Fault Lexer := do
  let lexer ← lexer.dropPending
  let (chomping, extra, behindHeader) ← blockHeader lexer.mark lexer.cursor.next
  let start ← endOfLine .blockScalar lexer.mark behindHeader
  let least := (max (lexer.indent + 1) 1).toNat
  let (column, breaks, first) := match extra with
    | some extra =>
      let column := least + extra - 1
      let (breaks, first) := blockBreaks column start
      (column, breaks, first)
    | none =>
      let (breaks, widest, first) := leadingBlanks start 0
      (max least widest, breaks, first)
  let (content, last, trailing, finish) := blockLines isFolded column first breaks
  let ending := match chomping with
    | .strip => []
    | .clip => last
    | .keep => last ++ trailing
  return { lexer.emitUpTo (.scalar (content ++ ending) false) finish with mayStartKey := true }

end PromptTemplate.Yaml.Lexer
