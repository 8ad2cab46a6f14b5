import PromptTemplate.Diagnostic
import PromptTemplate.Text.Basic

set_option autoImplicit false

namespace PromptTemplate.Name

def maxLength : Nat := 50

inductive Fault where
  | blank
  | foreignCharacter
  | tooLong
  deriving DecidableEq, Repr

def Fault.message : Fault → String
  | .blank => "Name cannot be empty"
  | .foreignCharacter => "Name can only contain letters, numbers, and underscores"
  | .tooLong => s!"Name must be {maxLength} characters or less"

/-- A name without one line feed at its end. -/
def stem : Text → Text
  | [] => []
  | ['\n'] => []
  | c :: rest => c :: stem rest

def fault? (name : Text) : Option Fault :=
  if Text.isBlank name then some .blank
  else if (stem name).isEmpty || !(stem name).all Text.isWordChar then some .foreignCharacter
  else if maxLength < name.length then some .tooLong
  else none

def validate (name : Text) : Validation :=
  match fault? name with
  | some fault => { isValid := false, error := some fault.message }
  | none => .passed

theorem isValid_validate_iff {name : Text} : (validate name).isValid = true ↔ fault? name = none := by
  rw [validate]
  cases fault? name <;> simp [Validation.passed]

end PromptTemplate.Name
