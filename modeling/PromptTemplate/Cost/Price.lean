import PromptTemplate.Formula.Reading
import PromptTemplate.Value.Printer

set_option autoImplicit false

namespace PromptTemplate.Price

/-- Why a value is no price. -/
inductive Fault where
  | truthValue (b : Bool)
  | emptyFormula
  | formula (text : Text) (cause : Formula.Fault)
  | negative (price : Float)
  /-- An integer beyond the largest float. -/
  | beyondFloat

/-- The words for a fault, if it is reported in words. A cause in a formula without words of its own is
reported by the formula alone. -/
def Fault.message? : Fault → Option String
  | .truthValue b => some ("invalid cost: " ++ (if b then "True" else "False"))
  | .emptyFormula => some "empty cost expression"
  | .formula text cause =>
    let head := "invalid cost expression " ++ String.ofList (Text.quoted text)
    some (match cause.message? text with
      | some words => head ++ ": " ++ words
      | none => head)
  | .negative price =>
    some ("cost must not be negative, got " ++ String.ofList (Decimal.plain.render price))
  | .beyondFloat => none

/-- Refuses a number below zero. -/
def nonNegative (price : Float) : Except Fault Float :=
  if price < 0.0 then .error (.negative price) else .ok price

def ofFormula (text : Text) (formula : Formula.Evaluator := Formula.evaluate) : Except Fault Float :=
  if text.isEmpty then .error .emptyFormula
  else match formula text with
    | .error cause => .error (.formula text cause)
    | .ok price => nonNegative price

/-- The price that a value stands for. A value that is neither a number nor a text is a formula by its
written form. -/
def ofValue (value : Value) (formula : Formula.Evaluator := Formula.evaluate) : Except Fault Float :=
  match value with
  | .bool b => .error (.truthValue b)
  | .int n =>
    match Decimal.floatOfInt? n with
    | some price => nonNegative price
    | none => .error .beyondFloat
  | .float price => nonNegative price
  | value => ofFormula (Text.trim value.plain) formula

theorem nonNegative_eq_ok {given price : Float} (accepted : nonNegative given = .ok price) :
    ¬ price < 0.0 := by
  simp only [nonNegative] at accepted
  split at accepted
  · cases accepted
  · rename_i allowed
    cases accepted
    exact allowed

variable {formula : Formula.Evaluator}

/-- A float that is not below zero is its own price. -/
theorem ofValue_float {price : Float} (allowed : ¬ price < 0.0) : ofValue (.float price) formula = .ok price := by
  rw [ofValue, nonNegative, if_neg allowed]

/-- An accepted price is not below zero, whatever it was read from. -/
theorem ofValue_eq_ok {value : Value} {price : Float} (accepted : ofValue value formula = .ok price) :
    ¬ price < 0.0 := by
  have evaluated : ∀ text, ofFormula text formula = .ok price → ¬ price < 0.0 := by
    intro text read
    simp only [ofFormula] at read
    split at read
    · cases read
    · split at read
      · cases read
      · exact nonNegative_eq_ok read
  cases value with
  | bool b => cases accepted
  | int n =>
      simp only [ofValue] at accepted
      split at accepted
      · exact nonNegative_eq_ok accepted
      · cases accepted
  | float given => exact nonNegative_eq_ok accepted
  | _ => exact evaluated _ accepted

end PromptTemplate.Price
