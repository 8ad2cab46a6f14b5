import PromptTemplate.Cost.Price
import PromptTemplate.Expansion.Expand

set_option autoImplicit false

namespace PromptTemplate

/-- What is to be paid for: the numbered texts to generate and their count. -/
structure Workload where
  isValid : Bool
  lines : List (Int × Text)
  totalCount : Int
  deriving DecidableEq, Repr

def Workload.numbered (start : Int) : List Text → List (Int × Text)
  | [] => []
  | text :: rest => (start, text) :: numbered (start + 1) rest

/-- The workload of an expansion: the steps of a chain, or the units. -/
def Expansion.workload (expansion : Expansion) : Workload :=
  { isValid := expansion.isValid
    lines :=
      if expansion.isPipeline then
        expansion.steps.map fun step => ((step.index : Int), step.text)
      else Workload.numbered 1 expansion.units
    totalCount := expansion.totalCount }

structure CostLine where
  index : Int
  cost : Float
  sourceText : Text

structure Estimate where
  totalCost : Float
  perUnit : Float
  breakdown : List CostLine := []

def Estimate.unitCount (estimate : Estimate) : Nat :=
  estimate.breakdown.length

/-- The estimate of a workload at a price. A workload that is not valid costs nothing. There is none
for a count beyond the largest float. -/
def Workload.estimate? (workload : Workload) (price : Float) : Option Estimate :=
  if workload.isValid then
    (Decimal.floatOfInt? workload.totalCount).map fun count =>
      { totalCost := price * count
        perUnit := price
        breakdown := workload.lines.map fun line => ⟨line.1, price, line.2⟩ }
  else some { totalCost := 0.0, perUnit := price }

theorem Workload.estimate?_of_refused {workload : Workload} (refused : workload.isValid = false)
    (price : Float) : workload.estimate? price = some ⟨0.0, price, []⟩ := by
  simp [estimate?, refused]

theorem Workload.estimate?_of_valid {workload : Workload} (valid : workload.isValid = true)
    (price : Float) : workload.estimate? price =
      (Decimal.floatOfInt? workload.totalCount).map fun count =>
        ⟨price * count, price, workload.lines.map fun line => ⟨line.1, price, line.2⟩⟩ := by
  simp [estimate?, valid]

end PromptTemplate
