import PromptTemplate.Text.Basic

set_option autoImplicit false

namespace PromptTemplate.Yaml

structure Pen where
  /-- What is written, the last character first. -/
  written : Text := []
  column : Nat := 0
  /-- Whether a blank or nothing stands directly behind the pen. -/
  isBlank : Bool := true
  /-- Whether nothing but indentation and marks of items stands on the line. -/
  isFresh : Bool := true
  deriving DecidableEq, Repr

namespace Pen

def text (pen : Pen) : Text :=
  pen.written.reverse

def write (pen : Pen) (text : Text) : Pen :=
  { pen with written := text.reverse ++ pen.written, column := pen.column + text.length }

def endLine (pen : Pen) (mark : Char := '\n') : Pen :=
  { written := mark :: pen.written, column := 0, isBlank := true, isFresh := true }

/-- Says that text was written last. -/
def settle (pen : Pen) : Pen :=
  { pen with isBlank := false, isFresh := false }

/-- Goes to a column, on a new line unless the line holds nothing to the right of it. -/
def toColumn (pen : Pen) (column : Nat) : Pen :=
  let started :=
    if !pen.isFresh || column < pen.column || (pen.column == column && !pen.isBlank) then pen.endLine
    else pen
  if started.column < column then
    { started.write (List.replicate (column - started.column) ' ') with isBlank := true }
  else started

/-- Writes a mark, with a space in front of it if one is needed. A mark of an item leaves the line
fresh. -/
def mark (pen : Pen) (text : Text) (needsSpace keepsFresh : Bool) : Pen :=
  let spaced := if pen.isBlank || !needsSpace then text else ' ' :: text
  { pen.write spaced with isBlank := false, isFresh := pen.isFresh && keepsFresh }

end Pen

end PromptTemplate.Yaml
