import PromptTemplate.Yaml.Class
import PromptTemplate.Yaml.Fault

set_option autoImplicit false

namespace PromptTemplate.Yaml

/-- A position: the text from it on, and the number of characters, lines and columns before it. -/
structure Cursor where
  rest : Text
  index : Nat := 0
  line : Nat := 0
  column : Nat := 0
  deriving DecidableEq, Repr

namespace Cursor

/-- The line and column of a position. -/
def mark (cursor : Cursor) : Mark :=
  ⟨cursor.line, cursor.column⟩

def here (cursor : Cursor) : Option Char :=
  cursor.rest.head?

def next (cursor : Cursor) : Cursor :=
  match cursor.rest with
  | [] => cursor
  | c :: rest =>
    if isBreak c then ⟨rest, cursor.index + 1, cursor.line + 1, 0⟩
    else if c = byteOrderMark then { cursor with rest, index := cursor.index + 1 }
    else { cursor with rest, index := cursor.index + 1, column := cursor.column + 1 }

/-- The position some characters on. -/
def skip : Nat → Cursor → Cursor
  | 0, cursor => cursor
  | n + 1, cursor => skip n cursor.next

/-- The characters from a position on that are of a class, and the position behind them. -/
def takeWhile (cursor : Cursor) (p : Char → Bool) : Text × Cursor :=
  let found := cursor.rest.takeWhile p
  (found, cursor.skip found.length)

/-- The position behind the characters of a class. -/
def skipWhile (cursor : Cursor) (p : Char → Bool) : Cursor :=
  (cursor.takeWhile p).2

end Cursor

end PromptTemplate.Yaml
