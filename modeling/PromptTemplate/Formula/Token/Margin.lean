import PromptTemplate.Formula.Token.Basic

set_option autoImplicit false

namespace PromptTemplate.Formula.Token

/-- The margin of a line in columns, by both counts. -/
structure Margin where
  column : Nat
  narrow : Nat
  deriving DecidableEq, Repr

/-- The margin of a line without blanks in front. -/
def Margin.zero : Margin := ⟨0, 0⟩

def Margin.step (margin : Margin) (c : Char) : Margin :=
  if c = '\t' then ⟨(margin.column / 8 + 1) * 8, margin.narrow + 1⟩
  else if c = '\x0c' then .zero
  else ⟨margin.column + 1, margin.narrow + 1⟩

def isSpace (c : Char) : Bool :=
  c == ' ' || c == '\t' || c == '\x0c'

def maxIndents : Nat := 99

/-- The margins that are open, innermost first, after a line with some margin, and the tokens that tell
the change. -/
def Margin.next (margin : Margin) (opened : List Margin) : Except Fault (List Margin × List Token) :=
  match opened with
  | [] => if margin.column = 0 then .ok ([], []) else enter .zero
  | inner :: outer =>
    if margin.column = inner.column then
      if margin.narrow = inner.narrow then .ok (opened, []) else .error .tabbed
    else if inner.column < margin.column then enter inner
    else leave outer [.dedent]
where
  /-- Opens a margin inside another one. -/
  enter (inner : Margin) : Except Fault (List Margin × List Token) :=
    if maxIndents ≤ opened.length then .error .indented
    else if margin.narrow ≤ inner.narrow then .error .tabbed
    else .ok (margin :: opened, [.indent])
  /-- Closes margins down to an equal one. -/
  leave : List Margin → List Token → Except Fault (List Margin × List Token)
    | [], found =>
      if margin.column != 0 then .error .indented
      else if margin.narrow != 0 then .error .tabbed
      else .ok ([], found)
    | inner :: outer, found =>
      if margin.column < inner.column then leave outer (.dedent :: found)
      else if margin.column != inner.column then .error .indented
      else if margin.narrow != inner.narrow then .error .tabbed
      else .ok (inner :: outer, found)

end PromptTemplate.Formula.Token
