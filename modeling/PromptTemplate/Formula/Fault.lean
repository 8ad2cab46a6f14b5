import PromptTemplate.Text.Printable

set_option autoImplicit false

namespace PromptTemplate.Formula

/-- A cause for which a formula has no value. -/
inductive Fault where
  /-- The text is no formula. -/
  | malformed
  /-- A line of the text is indented where it must not be, or not where it must be. -/
  | indented
  /-- Tabs and spaces are mixed so that indentations cannot be compared. -/
  | tabbed
  /-- The text is nested too deeply to be read. -/
  | unreadable
  /-- The text holds no statement. -/
  | noStatement
  | unknownName (name : Text)
  | unknownFunction (name : Text)
  /-- The called thing is not a name. -/
  | anonymousCall
  /-- The form is read but has no value, as a list or a map. -/
  | unavailable (form : String)
  | importing
  | hiddenAttribute (name : Text)
  | forbiddenMethod (name : Text)
  | unknownAttribute (name : Text)
  /-- The operator is read but has no meaning. -/
  | undefinedOperator
  | comparison
  /-- A power whose base or exponent is too large to be tried. -/
  | powerTooHigh (base exponent : Text)
  | divisionByZero
  | floatDivisionByZero
  | complexDivisionByZero
  | zeroToNegativePower
  /-- A power of zero whose exponent is negative or not real, of numbers that may not be real. -/
  | zeroToComplexPower
  | overflow
  | wrongType
  /-- A value of the right type that has no meaning, as a text that is no numeral. -/
  | wrongValue
  | outOfRange
  | missingKey
  | unknownEncoding
  | unencodable
  | undecodable
  /-- A value that does not fit into memory. -/
  | tooLarge
  /-- A text that is longer than texts may be. -/
  | tooLong
  /-- The formula is nested too deeply to be evaluated. -/
  | tooDeep
  deriving DecidableEq, Repr

/-- The words for a cause in a formula, if it is reported in words. -/
def Fault.message? (formula : Text) : Fault → Option String
  | .noStatement => some "Sorry, cannot evaluate empty string"
  | .unknownName name =>
    some ("'" ++ String.ofList name ++ "' is not defined for expression '" ++
      String.ofList formula ++ "'")
  | .unknownFunction name =>
    some ("Function '" ++ String.ofList name ++ "' not defined, for expression '" ++
      String.ofList formula ++ "'.")
  | .anonymousCall => some "Lambda Functions not implemented"
  | .unavailable form => some ("Sorry, " ++ form ++ " is not available in this evaluator")
  | .importing => some "Sorry, 'import' is not allowed."
  | .hiddenAttribute name =>
    some ("Sorry, access to __attributes  or func_ attributes is not available. (" ++
      String.ofList name ++ ")")
  | .forbiddenMethod name =>
    some ("Sorry, this method is not available. (" ++ String.ofList name ++ ")")
  | .powerTooHigh base exponent =>
    some ("Sorry! I don't want to evaluate " ++ String.ofList base ++ " ** " ++
      String.ofList exponent)
  | .divisionByZero => some "division by zero"
  | .floatDivisionByZero => some "float division by zero"
  | .complexDivisionByZero => some "complex division by zero"
  | .zeroToNegativePower => some "0.0 cannot be raised to a negative power"
  | .zeroToComplexPower => some "0.0 to a negative or complex power"
  | _ => none

end PromptTemplate.Formula
