import PromptTemplate.Expansion.Unit

set_option autoImplicit false

namespace PromptTemplate.Chain

def costlySteps : Nat := 5

def longSteps : Nat := 10

def expandSteps (settings : Settings) (catalog : Catalog) (position : Nat) :
    List UnitKind → List Step
  | [] => []
  | kind :: rest =>
    ⟨kind.text, position, kind.expand settings catalog⟩ ::
      expandSteps settings catalog (position + 1) rest

/-- What is said about one step: its own warnings, and that variants after the first are not used. -/
def stepWarnings (step : Step) : List Warning :=
  step.outcome.warnings.map (.atStep step.index) ++
    if 1 < step.outcome.units.length then [.unusedVariants step.index step.outcome.units.length]
    else []

def lengthWarnings (steps : Nat) : List Warning :=
  (if longSteps < steps then [.longChain steps] else []) ++
    if costlySteps < steps then [.costlyChain steps] else []

def stepIssues (step : Step) : List Issue :=
  step.outcome.issues.map (.atStep step.index)

def ofSteps (settings : Settings) (text : Text) (kinds : List UnitKind) (steps : List Step) :
    Expansion :=
  let warnings := steps.flatMap stepWarnings ++ lengthWarnings steps.length
  let kind := some (.chain text kinds)
  match steps.flatMap stepIssues with
  | [] =>
    { isValid := true
      prompt := text
      units := steps.filterMap Step.firstVariant?
      previewCount := min (steps.length : Int) settings.maxPreview
      totalCount := steps.length
      warnings
      kind
      isPipeline := true
      steps }
  | issue :: issues =>
    { isValid := false
      prompt := text
      warnings
      issues := issue :: issues
      kind
      isPipeline := true
      steps }

def expand (settings : Settings) (catalog : Catalog) (text : Text) (kinds : List UnitKind) :
    Expansion :=
  ofSteps settings text kinds (expandSteps settings catalog 1 kinds)

section

variable (settings : Settings) (catalog : Catalog) (text : Text) (kinds : List UnitKind)

theorem expandSteps_eq_map (position : Nat) :
    expandSteps settings catalog position kinds =
      (kinds.zipIdx position).map fun entry =>
        ⟨entry.1.text, entry.2, entry.1.expand settings catalog⟩ := by
  induction kinds generalizing position with
  | nil => rfl
  | cons kind rest ih => rw [expandSteps, ih, List.zipIdx_cons, List.map_cons]

theorem map_outcome_expandSteps (position : Nat) :
    (expandSteps settings catalog position kinds).map Step.outcome =
      kinds.map (·.expand settings catalog) := by
  induction kinds generalizing position with
  | nil => rfl
  | cons kind rest ih => rw [expandSteps, List.map_cons, ih, List.map_cons]

@[simp] theorem expand_prompt : (expand settings catalog text kinds).prompt = text := by
  simp only [expand, ofSteps]
  split <;> rfl

@[simp] theorem expand_isPipeline : (expand settings catalog text kinds).isPipeline = true := by
  simp only [expand, ofSteps]
  split <;> rfl

@[simp] theorem expand_steps :
    (expand settings catalog text kinds).steps = expandSteps settings catalog 1 kinds := by
  simp only [expand, ofSteps]
  split <;> rfl

@[simp] theorem expand_issues : (expand settings catalog text kinds).issues =
    (expandSteps settings catalog 1 kinds).flatMap stepIssues := by
  simp only [expand, ofSteps]
  split
  · rename_i quiet
    exact quiet.symm
  · rename_i found
    exact found.symm

theorem expand_warnings : (expand settings catalog text kinds).warnings =
    (expandSteps settings catalog 1 kinds).flatMap stepWarnings ++
      lengthWarnings (expandSteps settings catalog 1 kinds).length := by
  simp only [expand, ofSteps]
  split <;> rfl

theorem length_expandSteps (position : Nat) :
    (expandSteps settings catalog position kinds).length = kinds.length := by
  rw [expandSteps_eq_map, List.length_map, List.length_zipIdx]

theorem expand_isValid_iff : (expand settings catalog text kinds).isValid = true ↔
    (expandSteps settings catalog 1 kinds).flatMap stepIssues = [] := by
  simp only [expand, ofSteps]
  split
  · rename_i quiet
    simp [quiet]
  · rename_i found
    simp [found]

/-- A chain without issues carries the first variant of each step and counts its steps. -/
theorem expand_of_quiet
    (quiet : (expandSteps settings catalog 1 kinds).flatMap stepIssues = []) :
    let steps := expandSteps settings catalog 1 kinds
    let chain := expand settings catalog text kinds
    chain.isValid = true ∧ chain.units = steps.filterMap Step.firstVariant? ∧
      chain.totalCount = steps.length ∧
      chain.previewCount = min (steps.length : Int) settings.maxPreview := by
  simp only [expand, ofSteps, quiet, and_self]

/-- A chain with an issue carries nothing, though it keeps its steps. -/
theorem expand_of_issues
    (found : (expandSteps settings catalog 1 kinds).flatMap stepIssues ≠ []) :
    let chain := expand settings catalog text kinds
    chain.isValid = false ∧ chain.units = [] ∧ chain.totalCount = 0 ∧ chain.previewCount = 0 := by
  simp only [expand, ofSteps]
  split
  · rename_i quiet
    exact absurd quiet found
  · exact ⟨rfl, rfl, rfl, rfl⟩

end

end PromptTemplate.Chain
