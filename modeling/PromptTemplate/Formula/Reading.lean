import PromptTemplate.Formula.Evaluation
import PromptTemplate.Formula.Parser.Statement

set_option autoImplicit false

namespace PromptTemplate.Formula

/-- How deep the forms that open on the left of their operands can be nested. -/
def maxChain : Nat := 5970

/-- How deep an expression can be nested. -/
def maxDepth : Nat := 2970

/-- The length of the longest chain of signs, powers and choices, each in the last operand of the one
before. A power takes two steps. -/
def Expression.chain : Expression → Nat
  | .signed _ operand => operand.chain + 1
  | .binary .pow _ right => right.chain + 2
  | .binary _ left right => max left.chain right.chain
  | .conditional _ _ whenFalse => whenFalse.chain + 1
  | _ => 0

/-- Refuses an expression that is nested too deeply. -/
def Expression.checkDepth (expression : Expression) : Except Fault Unit :=
  if maxChain < expression.chain then .error .unreadable
  else if maxDepth < expression.depth then .error .tooDeep
  else .ok ()

def ofText (text : Text) : Except Fault Statement := do
  let depth := text.length + 10
  let inner := Parser.expression depth
  match ← Parser.program inner (Parser.pattern inner depth) depth (Token.ofText text) with
  | some statement => return statement
  | none => throw .noStatement

def Statement.value : Statement → Except Fault Operand
  | .formula expression => do
    expression.checkDepth
    expression.value Expression.totalRoom
  | .importing => .error .importing
  | .form label => .error (.unavailable label)

abbrev Evaluator := Text → Except Fault Float

def evaluate (text : Text) : Except Fault Float := do
  let statement ← ofText text
  let operand ← statement.value
  operand.toFloat

end PromptTemplate.Formula
