import PromptTemplate.Formula.Operand.Basic

set_option autoImplicit false

namespace PromptTemplate.Formula.Operand

def index (a : Operand) : Except Fault Int :=
  match a.int? with
  | some n => .ok n
  | none => .error .wrongType

def size (a : Operand) : Except Fault Int := do
  let n ← a.index
  if maxSize < (if n < 0 then n.natAbs - 1 else n.natAbs) then throw .overflow
  return n

def bound : Operand → Except Fault (Option Int)
  | .nothing => .ok none
  | a => a.index.map some

def itemAt {α : Type} (items : List α) (position : Int) : Except Fault α :=
  let fromStart := if position < 0 then position + (items.length : Int) else position
  if fromStart < 0 then .error .outOfRange
  else match items[fromStart.toNat]? with
    | some item => .ok item
    | none => .error .outOfRange

/-- A bound of a slice as a position: for a step to the right between zero and the length, for a step to
the left one less. -/
def slicePosition (length : Nat) (leftwards : Bool) (position : Int) : Int :=
  let fromStart := if position < 0 then position + (length : Int) else position
  let least : Int := if leftwards then -1 else 0
  let most : Int := if leftwards then (length : Int) - 1 else length
  max least (min most fromStart)

/-- The items from one bound to another, the second one left out, at the distance of a step that is not
zero. -/
def sliced {α : Type} (items : List α) (first last : Option Int) (step : Int) : List α :=
  let length := items.length
  let leftwards := step < 0
  let start : Int := match first with
    | some position => slicePosition length leftwards position
    | none => if leftwards then (length : Int) - 1 else 0
  let stop : Int := match last with
    | some position => slicePosition length leftwards position
    | none => if leftwards then -1 else length
  let distance : Int := if leftwards then start - stop else stop - start
  let count : Nat :=
    if distance ≤ 0 then 0 else ((distance - 1) / (step.natAbs : Int) + 1).toNat
  let array := items.toArray
  (List.range count).filterMap fun (i : Nat) => array[(start + (i : Int) * step).toNat]?

def slice? {α : Type} (items : List α) (first last step : Operand) : Except Fault (List α) := do
  let distance := (← step.bound).getD 1
  if distance = 0 then throw .wrongValue
  return sliced items (← first.bound) (← last.bound) distance

/-- The item of a value by an index, a slice or a key. -/
def item (owner key : Operand) : Except Fault Operand :=
  match owner, key with
  | .text codes, .slice first last step => (slice? codes first last step).map .text
  | .bytes codes, .slice first last step => (slice? codes first last step).map .bytes
  | .list items, .slice first last step => (slice? items first last step).map .list
  | .tuple items, .slice first last step => (slice? items first last step).map .tuple
  | .text codes, key => do return .text [← itemAt codes (← key.index)]
  | .bytes codes, key => do return .int ((← itemAt codes (← key.index)) : Nat)
  | .list items, key => do itemAt items (← key.index)
  | .tuple items, key => do itemAt items (← key.index)
  | .dict entries, key =>
    if !key.isKey then .error .wrongType
    else match entry? entries key with
      | some value => .ok value
      | none => .error .missingKey
  | _, _ => .error .wrongType

end PromptTemplate.Formula.Operand
