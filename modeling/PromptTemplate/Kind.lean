import PromptTemplate.Issue

set_option autoImplicit false

namespace PromptTemplate

inductive UnitKind where
  | plain (text : Text)
  | bracketed (text : Text) (group : Bracket.Group)
  | wildcarded (text : Text) (names : List Text)
  deriving DecidableEq, Repr

inductive Kind where
  | single (unit : UnitKind)
  | chain (text : Text) (steps : List UnitKind)
  deriving DecidableEq, Repr

namespace UnitKind

def text : UnitKind → Text
  | .plain text => text
  | .bracketed text _ => text
  | .wildcarded text _ => text

def label : UnitKind → String
  | .plain _ => "Plain"
  | .bracketed _ _ => "Bracketed"
  | .wildcarded _ _ => "Wildcarded"

def ofText? (text : Text) : Except Bracket.Fault UnitKind :=
  match Reference.names text with
  | name :: names => .ok (.wildcarded text (name :: names))
  | [] =>
    match Bracket.fault? text with
    | some fault => .error fault
    | none =>
      if text.contains '[' then (Bracket.group? text).map (.bracketed text)
      else .ok (.plain text)

/-- Reads the steps of a chain, which are counted from the given position. The first malformed step is
reported with its position. -/
def ofSteps? (position : Nat) : List Text → Except Issue (List UnitKind)
  | [] => .ok []
  | step :: rest =>
    match ofText? step with
    | .error fault => .error (.atStep position (.bracket fault))
    | .ok unit => (ofSteps? (position + 1) rest).map (unit :: ·)

end UnitKind

namespace Kind

def text : Kind → Text
  | .single unit => unit.text
  | .chain text _ => text

def label : Kind → String
  | .single unit => unit.label
  | .chain _ _ => "Pipeline"

/-- Reads a prompt. The structure of a chain is checked before any step is read. -/
def ofText? (maxSteps : Int) (text : Text) : Except Issue Kind :=
  if text.contains Chain.bar then
    match Chain.fault? maxSteps text with
    | some fault => .error (.chain fault)
    | none => (UnitKind.ofSteps? 1 (Chain.splitSteps text)).map (.chain text)
  else
    match UnitKind.ofText? text with
    | .error fault => .error (.bracket fault)
    | .ok unit => .ok (.single unit)

end Kind

end PromptTemplate
