import PromptTemplate.Kind

set_option autoImplicit false

namespace PromptTemplate

/-- What became of a prompt or of one step, with the kind that it was read as. -/
structure Outcome (κ : Type) where
  isValid : Bool
  prompt : Text
  units : List Text := []
  previewCount : Int := 0
  totalCount : Nat := 0
  warnings : List Warning := []
  issues : List Issue := []
  kind : Option κ := none
  /-- The names that a wildcarded prompt refers to. -/
  names : List Text := []
  deriving DecidableEq, Repr

namespace Outcome

variable {κ : Type}

/-- The outcome of a refused prompt: no units, and counts of zero. -/
def refused (prompt : Text) (issues : List Issue) (kind : Option κ := none)
    (names : List Text := []) : Outcome κ :=
  { isValid := false, prompt, issues, kind, names }

def accepted (prompt : Text) (units : List Text) (previewCount : Int) (kind : Option κ := none)
    (warnings : List Warning := []) (names : List Text := []) : Outcome κ :=
  { isValid := true, prompt, units, previewCount, totalCount := units.length, warnings, kind, names }

/-- The first units. A negative count drops units from the end instead. -/
def firstUnits (count : Int) (units : List Text) : List Text :=
  if count < 0 then units.take (units.length - count.natAbs) else units.take count.natAbs

def preview (outcome : Outcome κ) : List Text :=
  firstUnits outcome.previewCount outcome.units

/-- Whether several wildcards were crossed. -/
def isCrossCombination (outcome : Outcome κ) : Bool :=
  1 < outcome.names.length

def diagnostics (outcome : Outcome κ) : List Diagnostic :=
  outcome.issues.map Issue.diagnostic

/-- Whether everything that is said about an outcome can be written. -/
def isWritable (outcome : Outcome κ) : Bool :=
  outcome.warnings.all Warning.isWritable && outcome.issues.all Issue.isWritable

def withKind {μ : Type} (kind : Option μ) (outcome : Outcome κ) : Outcome μ :=
  { outcome with kind }

end Outcome

/-- One step of a chain: its text, its position counted from one, and its own outcome. -/
structure Step where
  text : Text
  index : Nat
  outcome : Outcome UnitKind
  deriving DecidableEq, Repr

def Step.firstVariant? (step : Step) : Option Text :=
  step.outcome.units.head?

/-- If every step has a unit, none is left out when the first ones are collected. -/
theorem Step.map_some_filterMap_firstVariant? {steps : List Step}
    (carried : ∀ step ∈ steps, step.outcome.units ≠ []) :
    (steps.filterMap firstVariant?).map some = steps.map firstVariant? := by
  induction steps with
  | nil => rfl
  | cons step steps ih =>
      rw [List.forall_mem_cons] at carried
      obtain ⟨first, found⟩ : ∃ first, step.firstVariant? = some first := by
        rw [← Option.isSome_iff_exists, firstVariant?, List.isSome_head?]
        exact carried.1
      rw [List.filterMap_cons_some found, List.map_cons, ih carried.2, List.map_cons, found]

/-- What became of a prompt. Only a chain has steps. -/
structure Expansion extends Outcome Kind where
  isPipeline : Bool := false
  steps : List Step := []
  deriving DecidableEq, Repr

namespace Expansion

def ofUnit (outcome : Outcome UnitKind) : Expansion :=
  { outcome.withKind (outcome.kind.map Kind.single) with }

/-- The prompts to run, in order: of a chain the first variant of each step, else every unit. A refused
prompt has none. -/
def executionPrompts (expansion : Expansion) : List (Option Text) :=
  if !expansion.isValid then []
  else if expansion.isPipeline then expansion.steps.map Step.firstVariant?
  else expansion.units.map some

def describe (expansion : Expansion) : String :=
  if !expansion.isPipeline then "Single generation"
  else if !expansion.isValid then "Invalid pipeline syntax"
  else
    let count := expansion.totalCount
    s!"{count}-step pipeline → {count} image" ++ (if count = 1 then "" else "s")

end Expansion

end PromptTemplate
