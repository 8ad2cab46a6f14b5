import PromptTemplate.Yaml.Cursor
import PromptTemplate.Yaml.Token.Basic

set_option autoImplicit false

namespace PromptTemplate.Yaml

/-- A place where a key may have started. -/
structure PendingKey where
  /-- The number of tokens in front of it. -/
  place : Nat
  /-- Whether it has to be a key, since it starts where the block's keys start. -/
  isRequired : Bool
  /-- The number of characters in front of it. -/
  index : Nat
  start : Mark
  deriving DecidableEq, Repr

/-- What is known between two tokens. -/
structure Lexer where
  cursor : Cursor
  tokens : Array Lexeme := #[]
  /-- The column of the innermost block, or -1 outside of all. -/
  indent : Int := -1
  /-- The columns of the blocks around it. -/
  outer : List Int := []
  /-- The pending key of the current flow level. -/
  pending : Option PendingKey := none
  /-- The pending keys of the levels around it, one for each open flow collection. -/
  outerPending : List (Option PendingKey) := []
  /-- Whether a key may start here. -/
  mayStartKey : Bool := true

namespace Lexer

/-- The current line and column. -/
def mark (lexer : Lexer) : Mark :=
  lexer.cursor.mark

/-- Whether some flow collection is open. -/
def inFlow (lexer : Lexer) : Bool :=
  !lexer.outerPending.isEmpty

/-- Adds a token that takes no characters. -/
def emit (lexer : Lexer) (token : Token) : Lexer :=
  { lexer with tokens := lexer.tokens.push ⟨token, lexer.mark, lexer.mark⟩ }

/-- Adds a token that reaches up to a position, which is the next one. -/
def emitUpTo (lexer : Lexer) (token : Token) (cursor : Cursor) : Lexer :=
  { lexer with cursor, tokens := lexer.tokens.push ⟨token, lexer.mark, cursor.mark⟩ }

/-- Adds a token of some characters. -/
def take (lexer : Lexer) (count : Nat) (token : Token) : Lexer :=
  lexer.emitUpTo token (lexer.cursor.skip count)

def announce (lexer : Lexer) (key : PendingKey) (tokens : List Token) : Lexer :=
  let placed := tokens.map (⟨·, key.start, key.start⟩ : Token → Lexeme)
  { lexer with
    tokens := lexer.tokens.extract 0 key.place ++ placed.toArray ++
      lexer.tokens.extract key.place lexer.tokens.size }

def closeBlocks (column : Int) : List Int → Lexer → Lexer
  | [], lexer =>
    if column < lexer.indent then { lexer.emit .blockEnd with indent := -1 } else lexer
  | outer :: rest, lexer =>
    if column < lexer.indent then
      closeBlocks column rest { lexer.emit .blockEnd with indent := outer, outer := rest }
    else lexer

/-- Closes the blocks that start to the right of a column, unless a flow collection is open. -/
def unwind (lexer : Lexer) (column : Int) : Lexer :=
  if lexer.inFlow then lexer else closeBlocks column lexer.outer lexer

def openBlock? (lexer : Lexer) (column : Nat) : Option Lexer :=
  if lexer.indent < column then
    some { lexer with indent := column, outer := lexer.indent :: lexer.outer }
  else none

def maxKey : Nat := 1024

/-- Whether a place can no longer be that of a key: a key lies on one line and is not too long. -/
def isStale (lexer : Lexer) (key : PendingKey) : Bool :=
  key.start.line != lexer.cursor.line || key.index + maxKey < lexer.cursor.index

def missColon {α : Type} (lexer : Lexer) (key : PendingKey) : Except Fault α :=
  refuse .simpleKey key.start .missingColon lexer.mark

/-- Forgets a place that can no longer be that of a key. -/
def dropStale (lexer : Lexer) (pending : Option PendingKey) : Except Fault (Option PendingKey) :=
  match pending with
  | none => .ok none
  | some key =>
    if !lexer.isStale key then .ok pending
    else if key.isRequired then lexer.missColon key
    else .ok none

/-- Forgets all places that can no longer be those of keys. -/
def dropAllStale (lexer : Lexer) : Except Fault Lexer := do
  let pending ← lexer.dropStale lexer.pending
  let outerPending ← lexer.outerPending.mapM lexer.dropStale
  return { lexer with pending, outerPending }

/-- Forgets the pending key of the current level. -/
def dropPending (lexer : Lexer) : Except Fault Lexer :=
  match lexer.pending with
  | none => .ok lexer
  | some key => if key.isRequired then lexer.missColon key else .ok { lexer with pending := none }

/-- Keeps the current place as one where a key may start. -/
def keepPlace (lexer : Lexer) : Except Fault Lexer :=
  if lexer.mayStartKey then do
    let lexer ← lexer.dropPending
    let cursor := lexer.cursor
    return { lexer with
      pending := some
        { place := lexer.tokens.size
          isRequired := !lexer.inFlow && lexer.indent == cursor.column
          index := cursor.index
          start := cursor.mark } }
  else .ok lexer

/-- The number of tokens that nothing behind them can change any more. -/
def settled (lexer : Lexer) : Nat :=
  (lexer.pending :: lexer.outerPending).foldl
    (fun least pending => match pending with
      | some key => min least key.place
      | none => least)
    lexer.tokens.size

/-- The position of the next token, and whether a line end lies before it. -/
def nextToken (cursor : Cursor) (sawBreak : Bool) : Cursor × Bool :=
  let behindSpaces := cursor.skipWhile (· == ' ')
  let behindComment := match behindSpaces.rest with
    | '#' :: _ => behindSpaces.skipWhile (!isBreak ·)
    | _ => behindSpaces
  if startsBreak behindComment.rest then
    if _shorter : behindComment.next.rest.length < cursor.rest.length then
      nextToken behindComment.next true
    else (behindComment, sawBreak)
  else (behindComment, sawBreak)
termination_by cursor.rest.length

/-- Moves to the next token. Outside of flow collections a key may start on a new line. -/
def toNextToken (lexer : Lexer) : Lexer :=
  let start := match lexer.cursor.index, lexer.cursor.rest with
    | 0, c :: _ => if c = byteOrderMark then lexer.cursor.next else lexer.cursor
    | _, _ => lexer.cursor
  let (cursor, sawBreak) := nextToken start false
  { lexer with
    cursor
    mayStartKey := lexer.mayStartKey || (sawBreak && !lexer.inFlow) }

/-- The position behind the rest of a line that holds at most a comment. -/
def endOfLine (activity : Activity) (since : Mark) (cursor : Cursor) : Except Fault Cursor :=
  let behindSpaces := cursor.skipWhile (· == ' ')
  let behind := match behindSpaces.rest with
    | '#' :: _ => behindSpaces.skipWhile (!isBreak ·)
    | _ => behindSpaces
  match behind.rest with
  | [] => .ok behind
  | c :: _ =>
    if isBreak c then .ok behind.next
    else refuse activity since (.expected "a comment or a line break" (some c)) behind.mark

end Lexer

end PromptTemplate.Yaml
