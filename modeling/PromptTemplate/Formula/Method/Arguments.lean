import PromptTemplate.Formula.Operand.Item

set_option autoImplicit false

namespace PromptTemplate.Formula

/-- The arguments of a call. No name comes twice. -/
structure Arguments where
  positional : List Operand
  named : List (Text × Operand)

namespace Arguments

/-- The arguments of a method that knows no names, if their number is between two bounds. -/
def listed (arguments : Arguments) (least most : Nat) : Except Fault (List Operand) :=
  let given := arguments.positional
  if arguments.named.isEmpty && least ≤ given.length && given.length ≤ most then .ok given
  else .error .wrongType

/-- The arguments of a method by its parameters, each perhaps missing. Parameters with an empty name are
given by place alone, those from the bound on by name alone. -/
def bound (arguments : Arguments) (parameters : List String) (required byPlace : Nat) :
    Except Fault (List (Option Operand)) :=
  let given := arguments.positional
  let names := parameters.map String.toList
  let known := arguments.named.all fun (name, _) =>
    !name.isEmpty && (names.drop given.length).contains name
  let values := (List.range parameters.length).map fun (i : Nat) =>
    match given[i]? with
    | some value => some value
    | none => (arguments.named.find? fun (name, _) => names[i]? == some name).map (·.2)
  if known && given.length ≤ byPlace && (values.take required).all Option.isSome then .ok values
  else .error .wrongType

end Arguments

namespace Operand

def codes (a : Operand) : Except Fault Codes :=
  match a with
  | .text codes => .ok codes
  | _ => .error .wrongType

/-- A count that a machine word of 32 bits holds. -/
def smallSize (a : Operand) : Except Fault Int := do
  let n ← a.index
  if n < -(Nat.pow 2 31) || Nat.pow 2 31 ≤ n then throw .overflow
  return n

end Operand

end PromptTemplate.Formula
