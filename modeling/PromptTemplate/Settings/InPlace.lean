import PromptTemplate.Cost.InPlace
import PromptTemplate.Settings.Reading

set_option autoImplicit false

namespace PromptTemplate.Settings

def Fault.shown : Fault → List Value
  | .unknownKey value | .noInteger _ value | .noFlag _ value => [value]
  | .notPositive _ n => [.int n]
  | .thresholdsReversed warn danger => [.int warn, .int danger]
  | .noMap _ | .price _ => []

variable (room : Nat) (evaluate : Formula.Evaluator)

/-- The values of the fields that a map names. Each key is written before it is looked up. -/
def readFields (given : Assoc Field Value) : List (Value × Value) → Except (Failure Fault) (Assoc Field Value)
  | [] => return given
  | (key, value) :: rest => do
    written room key
    match Field.ofKey? key.plain with
    | none => throw (.fault (.unknownKey key))
    | some field => readFields (given.insert field value) rest

def readPrice (given : Assoc Field Value) : Except (Failure Fault) (Option Value) :=
  match given.get? .perUnitCost with
  | none | some .null => return none
  | some value =>
    match Price.read room evaluate .ok value with
    | .ok price => return some (.float price)
    | .error (.fault cause) => throw (.fault (.price cause))
    | .error .unwritable => throw (.unwritable value)

/-- The settings with given values, once each of them has passed its check. -/
def readGiven (given : Assoc Field Value) : Except (Failure Fault) Settings := do
  Field.limits.forM fun field => stated room Fault.shown (checkLimit given field)
  Field.flags.forM fun field => stated room Fault.shown (checkFlag given field)
  let price ← readPrice room evaluate given
  stated room Fault.shown (checkThresholds (ofFields given price))

/-- The settings that a value holds, read one statement after the other. Complaints are written as they come up, and
formulas have any evaluator. -/
def read : Value → Except (Failure Fault) Settings
  | .null => return {}
  | .map pairs => do readGiven room evaluate (← readFields room [] pairs)
  | value => throw (.fault (.noMap value.typeName))

end PromptTemplate.Settings
