import PromptTemplate.Cost.Estimate
import PromptTemplate.Expansion.Evaluation
import PromptTemplate.Value.Writing

set_option autoImplicit false

namespace PromptTemplate

/-- What a formula gives, before it is made a float. -/
def Formula.operandOf (text : Text) : Except Fault Operand := do
  (← ofText text).value

namespace Price

/-- How reading a price fails: with a fault, or as the value cannot be written. -/
inductive Failure where
  | fault (cause : Fault)
  | unwritable

/-- The words for a failure, if it is reported as that of a price. -/
def Failure.message? : Failure → Option String
  | .fault cause => cause.message?
  | .unwritable => none

def written (room : Nat) (value : Value) : Except Failure Text :=
  if value.isWritable room then return Text.trim value.plain else throw .unwritable

section

variable {α : Type} (room : Nat) (evaluate : Text → Except Formula.Fault α)
  (toFloat : α → Except Formula.Fault Float)

/-- The number that a formula gives. What goes wrong in its evaluation or in making a float of what it gives is a fault
of the formula. -/
def formulaNumber (text : Text) : Except Failure Float := do
  if text.isEmpty then throw (.fault .emptyFormula)
  match evaluate text >>= toFloat with
  | .ok price => return price
  | .error cause => throw (.fault (.formula text cause))

/-- The number that a value stands for, whatever its sign. -/
def number : Value → Except Failure Float
  | .bool b => throw (.fault (.truthValue b))
  | .int n =>
    match Decimal.floatOfInt? n with
    | some price => return price
    | none => throw (.fault .beyondFloat)
  | .float price => return price
  | value => do formulaNumber evaluate toFloat (← written room value)

def read (value : Value) : Except Failure Float := do
  let price ← number room evaluate toFloat value
  if price < 0.0 then throw (.fault (.negative price))
  return price

end

end Price

/-- How the expansion of a prompt with its cost fails. -/
inductive Estimate.Failure where
  | expansion (failure : Expansion.Failure)
  | price (failure : Price.Failure)
  | countBeyondFloat

/-- The words for a failure, if it is reported in words. -/
def Estimate.Failure.message? : Failure → Option String
  | .price failure => failure.message?
  | .expansion _ | .countBeyondFloat => none

/-- The estimate of a workload at the price that a value stands for. -/
def Workload.estimate (room : Nat) (formula : Formula.Evaluator) (workload : Workload) (cost : Value) :
    Except Estimate.Failure Estimate := do
  let price ← (Price.read room formula .ok cost).mapError .price
  match workload.estimate? price with
  | some estimate => return estimate
  | none => throw .countBeyondFloat

/-- The estimate of an expansion at a given price, or at the price of the settings, if there is one. -/
def Expansion.bill (room : Nat) (formula : Formula.Evaluator) (settings : Settings)
    (expansion : Expansion) (cost : Option Value) : Except Estimate.Failure (Option Estimate) :=
  match cost.or settings.perUnitCost with
  | none => return none
  | some cost => return some (← expansion.workload.estimate room formula cost)

def evaluateWithCost (room : Nat) (formula : Formula.Evaluator) (settings : Settings)
    (catalog : Catalog) (prompt : Text) (cost : Option Value) :
    Except Estimate.Failure (Expansion × Option Estimate) := do
  let expansion ← (evaluate settings catalog prompt).mapError .expansion
  return (expansion, ← expansion.bill room formula settings cost)

end PromptTemplate
