import PromptTemplate.Diagnostic
import PromptTemplate.Text.Basic

set_option autoImplicit false

namespace PromptTemplate.Chain

def bar : Char := '|'

inductive Fault where
  | doubled
  | blankStep (position : Nat)
  | tooMany (count : Nat) (limit : Int)
  deriving DecidableEq, Repr

def Fault.message : Fault → String
  | .doubled => "Double pipes (||) found"
  | .blankStep position => s!"Empty step found at position {position}"
  | .tooMany count _ => s!"Too many steps: {count}"

theorem Fault.message_isEmpty (fault : Fault) : fault.message.isEmpty = false := by
  rw [String.isEmpty_eq_false_iff]
  intro empty
  cases fault with
  | doubled => exact absurd empty (by decide)
  | blankStep position => exact absurd (String.append_eq_empty_iff.mp empty).1 (by decide)
  | tooMany count limit => exact absurd (String.append_eq_empty_iff.mp empty).1 (by decide)

def Fault.suggestion : Fault → String
  | .doubled => "Use single | to separate steps"
  | .blankStep _ => "Remove empty steps or add content between | operators"
  | .tooMany _ limit => s!"Split into smaller pipelines (at most {limit} steps)"

def Fault.isWritable : Fault → Bool
  | .doubled => true
  | .blankStep position => Text.hasNumeral position
  | .tooMany count limit => Text.hasNumeral count && Text.hasNumeral limit

def Fault.validation (fault : Fault) : Validation :=
  { isValid := false, error := some fault.message, suggestion := some fault.suggestion }

/-- Whether two bars stand next to each other. -/
def hasDoubled : Text → Bool
  | first :: second :: rest => (first == bar && second == bar) || hasDoubled (second :: rest)
  | _ => false

/-- The position of the first blank segment, counted from the given one. -/
def firstBlank? (position : Nat) : List Text → Option Nat
  | [] => none
  | segment :: rest =>
    if Text.isBlank segment then some position else firstBlank? (position + 1) rest

/-- The first fault of a text's steps. A text without a bar is a single step and has none. -/
def fault? (maxSteps : Int) (text : Text) : Option Fault :=
  if !text.contains bar then none
  else if hasDoubled text then some .doubled
  else
    let segments := Text.splitOn bar text
    match firstBlank? 1 segments with
    | some position => some (.blankStep position)
    | none =>
      if maxSteps < segments.length then some (.tooMany segments.length maxSteps) else none

def validate (maxSteps : Int) (text : Text) : Validation :=
  match fault? maxSteps text with
  | some fault => fault.validation
  | none => .passed

/-- The trimmed steps of a text, in order; none is dropped. -/
def splitSteps (text : Text) : List Text :=
  (Text.splitOn bar text).map Text.trim

end PromptTemplate.Chain
