set_option autoImplicit false

namespace PromptTemplate

/-- What went wrong: the prompt is malformed, a wildcard is missing, or a limit is passed. -/
inductive DiagnosticKind where
  | malformed
  | unresolved
  | overflow
  deriving DecidableEq, Repr

def DiagnosticKind.label : DiagnosticKind → String
  | .malformed => "syntax"
  | .unresolved => "unresolved_reference"
  | .overflow => "overflow"

/-- A message with its kind and perhaps a hint. -/
structure Diagnostic where
  kind : DiagnosticKind
  message : String
  suggestion : Option String := none
  deriving DecidableEq, Repr

namespace Diagnostic

/-- The message with the hint in parentheses behind it. An empty hint is left out. -/
def render (diagnostic : Diagnostic) : String :=
  match diagnostic.suggestion with
  | none => diagnostic.message
  | some hint =>
    if hint.isEmpty then diagnostic.message else diagnostic.message ++ " (" ++ hint ++ ")"

/-- The same diagnostic with a text in front of its message. -/
def within (lead : String) (diagnostic : Diagnostic) : Diagnostic :=
  { diagnostic with message := lead ++ diagnostic.message }

end Diagnostic

/-- The verdict of a check. -/
structure Validation where
  isValid : Bool
  error : Option String := none
  suggestion : Option String := none
  deriving DecidableEq, Repr

namespace Validation

/-- The verdict on a text without faults. -/
def passed : Validation :=
  { isValid := true }

/-- The verdict as a diagnostic. A failure that gives no reason is reported in general words. -/
def diagnostic? (kind : DiagnosticKind) (validation : Validation) : Option Diagnostic :=
  if validation.isValid then none
  else
    let message := match validation.error with
      | none => "Invalid syntax"
      | some reason => if reason.isEmpty then "Invalid syntax" else reason
    some ⟨kind, message, validation.suggestion⟩

end Validation

end PromptTemplate
