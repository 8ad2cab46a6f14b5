import PromptTemplate.Formula.Method.Collection
import PromptTemplate.Formula.Method.Number

set_option autoImplicit false

namespace PromptTemplate.Formula.Operand

abbrev Behaviour := Arguments → Except Fault Operand

def behaviour? {α : Type} (methods : List (String × (α → Arguments → Except Fault Operand)))
    (owner : α) (name : Text) : Option Behaviour :=
  (methods.find? fun (known, _) => known.toList == name).map fun (_, act) => act owner

/-- The behaviour of a method; the first argument says how a method is called that is given to another
one. -/
def methodOf? (apply : Operand → Operand → Except Fault Operand) (owner : Operand) (name : Text) :
    Option Behaviour :=
  match owner with
  | .text codes =>
    match behaviour? TextMethod.methods codes name with
    | some behaviour => some behaviour
    | none => behaviour? (RunKind.methods.map fun (known, act) => (known, act .text)) codes name
  | .bytes codes =>
    match behaviour? BytesMethod.methods codes name with
    | some behaviour => some behaviour
    | none =>
      behaviour? (RunKind.methods.map fun (known, act) => (known, act .bytes)) codes name
  | .int n => behaviour? NumberMethod.intMethods n name
  | .bool b =>
    if name = "from_bytes".toList then
      some fun arguments => (NumberMethod.ofBytes arguments).map fun n => .bool (n != 0)
    else behaviour? NumberMethod.intMethods (if b then 1 else 0) name
  | .float x => behaviour? NumberMethod.floatMethods x name
  | .complex z =>
    if name = "conjugate".toList then
      some (NumberMethod.plain (fun z : Complex => .ok (.complex z.conjugate)) z)
    else none
  | .list items => behaviour? (CollectionMethod.listMethods apply) items name
  | .tuple items => behaviour? CollectionMethod.tupleMethods items name
  | .dict entries => behaviour? CollectionMethod.dictMethods entries name
  | .view part entries =>
    if name = "isdisjoint".toList && part != .values then
      some (CollectionMethod.isDisjoint part entries)
    else none
  | .nothing | .ellipsis | .method _ _ | .slice _ _ _ => none

/-- Calls a value with one argument; no method takes another method that way. -/
def applyOne (callee argument : Operand) : Except Fault Operand :=
  match callee with
  | .method owner name =>
    match methodOf? (fun _ _ => .error .wrongType) owner name with
    | some behaviour => behaviour { positional := [argument], named := [] }
    | none => .error .wrongType
  | _ => .error .wrongType

def call (callee : Operand) (arguments : Arguments) : Except Fault Operand :=
  match callee with
  | .method owner name =>
    match methodOf? applyOne owner name with
    | some behaviour => behaviour arguments
    | none => .error .wrongType
  | _ => .error .wrongType

/-- The attribute of a value: a part of a number, a method, or the entry of a dictionary. -/
def attributeOf (owner : Operand) (name : Text) : Except Fault Operand :=
  match NumberMethod.part? owner name with
  | some part => .ok part
  | none =>
    if (methodOf? applyOne owner name).isSome then .ok (.method owner name)
    else
      let entry := match owner with
        | .dict entries => entry? entries (.text (Codes.ofText name))
        | _ => none
      match entry with
      | some value => .ok value
      | none => .error (.unknownAttribute name)

end PromptTemplate.Formula.Operand
