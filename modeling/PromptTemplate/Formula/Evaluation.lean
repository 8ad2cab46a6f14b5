import PromptTemplate.Formula.Expression
import PromptTemplate.Formula.Field
import PromptTemplate.Formula.Method

set_option autoImplicit false

namespace PromptTemplate.Formula

def Sign.apply? : Sign → Option (Operand → Except Fault Operand)
  | .plus => some Operand.pos
  | .minus => some Operand.neg
  | .undefined => none

def Operator.apply? : Operator → Option (Operand → Operand → Except Fault Operand)
  | .add => some Operand.add
  | .sub => some Operand.sub
  | .mul => some Operand.mul
  | .div => some Operand.div
  | .pow => some Operand.pow
  | .undefined => none

namespace Expression

/-- Names of attributes that are refused. -/
def forbiddenMethods : List Text :=
  ["format", "format_map", "mro", "tb_frame", "gi_frame", "ag_frame", "cr_frame", "exec"].map
    String.toList

def attributeFault? (name : Text) : Option Fault :=
  if "_".toList.isPrefixOf name || "func_".toList.isPrefixOf name then some (.hiddenAttribute name)
  else if forbiddenMethods.contains name then some (.forbiddenMethod name)
  else none

/-- The most characters or bytes that a text may have. -/
def maxText : Nat := 100000

/-- Refuses a text that is too long. -/
def checkText (codes : Codes) : Except Fault Unit :=
  if maxText < codes.length then .error .tooLong else .ok ()

def totalRoom : Nat := 992

/-- The room that a value takes for itself. -/
def leafRoom : Nat := 3

/-- Named arguments by their names. A name that comes twice keeps its place and takes the later value; an
argument without a name is of no use. -/
def byName : List (Option Text × Operand) → Except Fault (List (Text × Operand))
  | [] => .ok []
  | (none, _) :: _ => .error .wrongType
  | (some label, given) :: rest => do
    let others ← byName rest
    match others.find? (·.1 == label) with
    | some (_, later) => return (label, later) :: others.filter (·.1 != label)
    | none => return (label, given) :: others

mutual

def value (room : Nat) (expression : Expression) : Except Fault Operand :=
  if room < leafRoom then .error .tooDeep
  else match expression with
    | .constant operand =>
      match operand with
      | .text codes | .bytes codes => do
        checkText codes
        return operand
      | _ => .ok operand
    | .name label => .error (.unknownName label)
    | .signed sign operand =>
      match Sign.apply? sign with
      | none => .error .undefinedOperator
      | some apply => value (room - 2) operand >>= apply
    | .binary operator left right =>
      match Operator.apply? operator with
      | none => .error .undefinedOperator
      | some apply => do
        let a ← value (room - 2) left
        let b ← value (room - 2) right
        apply a b
    | .both values => decided (room - 2) false values
    | .either values => decided (room - 2) true values
    | .conditional test whenTrue whenFalse => do
      let chosen ← value (room - 2) test
      if chosen.isTrue then value (room - 2) whenTrue else value (room - 2) whenFalse
    | .comparison left right => do
      let _ ← value (room - 2) left
      let _ ← value (room - 2) right
      .error .comparison
    | .call (.name label) _ _ => .error (.unknownFunction label)
    | .call (.attribute owner label) positional named =>
      if room < leafRoom + 2 then .error .tooDeep
      else match attributeFault? label with
        | some fault => .error fault
        | none => do
          let operand ← value (room - 4) owner
          let method ← operand.attributeOf label
          let given ← valueOfAll (room - 3) positional
          let named ← valueOfNamed (room - 3) named
          method.call { positional := given, named := ← byName named }
    | .call _ _ _ => .error .anonymousCall
    | .attribute owner label =>
      match attributeFault? label with
      | some fault => .error fault
      | none => do
        let operand ← value (room - 2) owner
        operand.attributeOf label
    | .subscript owner index => do
      let operand ← value (room - 2) owner
      let key ← value (room - 2) index
      operand.item key
    | .slice first last step => do
      let first ← valueOfOption (room - 2) first
      let last ← valueOfOption (room - 2) last
      let step ← valueOfOption (room - 2) step
      return .slice first last step
    | .joined parts => (joinedText (room - 2) parts).map .text
    | .formatted inner none => value (room - 2) inner
    | .formatted inner (some parts) => do
      if room < leafRoom + 2 then throw .tooDeep
      let format ← joinedText (room - 4) parts
      let operand ← value (room - 2) inner
      return .text (← Field.render format operand)
    | .form label _ => .error (.unavailable label)

/-- The first of several values that counts as wanted, or the last one. -/
def decided (room : Nat) (wanted : Bool) : List Expression → Except Fault Operand
  | [] => .ok (.bool false)
  | [last] => value room last
  | first :: rest => do
    let operand ← value room first
    if operand.isTrue == wanted then return operand else decided room wanted rest

def valueOfAll (room : Nat) : List Expression → Except Fault (List Operand)
  | [] => .ok []
  | first :: rest => do return (← value room first) :: (← valueOfAll room rest)

def valueOfNamed (room : Nat) :
    List (Option Text × Expression) → Except Fault (List (Option Text × Operand))
  | [] => .ok []
  | (label, first) :: rest => do
    let operand ← value room first
    return (label, operand) :: (← valueOfNamed room rest)

def valueOfOption (room : Nat) : Option Expression → Except Fault Operand
  | none => .ok .nothing
  | some expression => value room expression

def joinedText (room : Nat) : List Expression → Except Fault Codes
  | [] => .ok []
  | first :: rest => do
    let shown ← (← value room first).plain
    checkText shown
    return shown ++ (← joinedText room rest)

end

end Expression

end PromptTemplate.Formula
