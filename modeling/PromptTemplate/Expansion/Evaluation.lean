import PromptTemplate.Expansion.Fallible

set_option autoImplicit false

namespace PromptTemplate

/-- How an expansion ends without an outcome: units are not made, or words are not written. -/
inductive Expansion.Failure where
  | issue (issue : Issue)
  | unwritable
  deriving DecidableEq, Repr

variable (settings : Settings) (catalog : Catalog)

/-- An outcome, once everything that is said about it is written. -/
def Outcome.stated {κ : Type} (outcome : Outcome κ) : Except Expansion.Failure (Outcome κ) :=
  if outcome.isWritable then .ok outcome else .error .unwritable

/-- An expansion, once everything that is said about it is written. -/
def Expansion.stated (expansion : Expansion) : Except Failure Expansion :=
  if expansion.isWritable then .ok expansion else .error .unwritable

/-- A unit is evaluated to its outcome. The words for a refusal and for warnings are written at once. -/
def UnitKind.evaluate (kind : UnitKind) : Except Expansion.Failure (Outcome UnitKind) := do
  (← (kind.expand? settings catalog).mapError .issue).stated

namespace Chain

/-- Whether everything that a chain says about one of its steps can be written. -/
def stepIsWritable (step : Step) : Bool :=
  (stepWarnings step).all Warning.isWritable && (stepIssues step).all Issue.isWritable

/-- The steps of a chain, up to the first one that nothing can be said about. -/
def evaluateSteps (position : Nat) : List UnitKind → Except Expansion.Failure (List Step)
  | [] => return []
  | kind :: rest => do
    let step : Step := ⟨kind.text, position, ← kind.evaluate settings catalog⟩
    unless stepIsWritable step do throw .unwritable
    return step :: (← evaluateSteps (position + 1) rest)

/-- A chain is evaluated step by step, and then as a whole. -/
def evaluate (text : Text) (kinds : List UnitKind) : Except Expansion.Failure Expansion := do
  (ofSteps settings text kinds (← evaluateSteps settings catalog 1 kinds)).stated

end Chain

def Kind.evaluate : Kind → Except Expansion.Failure Expansion
  | .single unit => return .ofUnit (← unit.evaluate settings catalog)
  | .chain text steps => Chain.evaluate settings catalog text steps

/-- A prompt is read and evaluated. A prompt that cannot be read has an expansion if the words for the reason can be
written. -/
def evaluate (prompt : Text) : Except Expansion.Failure Expansion :=
  match Kind.ofText? settings.maxPipelineSteps prompt with
  | .error issue => (Expansion.unread prompt issue).stated
  | .ok kind => kind.evaluate settings catalog

theorem UnitKind.evaluate_eq (kind : UnitKind) :
    kind.evaluate settings catalog = (kind.expand settings catalog).stated := by
  rw [evaluate, expand?_eq_ok]
  rfl

namespace Chain

/-- What a step says holds what its outcome says. -/
theorem isWritable_outcome_of_step {step : Step} (writable : stepIsWritable step = true) :
    step.outcome.isWritable = true := by
  simp only [stepIsWritable, stepWarnings, stepIssues, Bool.and_eq_true, List.all_append, List.all_map,
    List.all_eq_true, Function.comp_apply, Warning.isWritable_atStep, Issue.isWritable_atStep] at writable
  obtain ⟨⟨warnings, _⟩, issues⟩ := writable
  rw [Outcome.isWritable, Bool.and_eq_true, List.all_eq_true, List.all_eq_true]
  exact ⟨fun warning member => (warnings warning member).2, fun issue member => (issues issue member).2⟩

theorem evaluateSteps_eq (position : Nat) (kinds : List UnitKind) :
    evaluateSteps settings catalog position kinds =
      if (expandSteps settings catalog position kinds).all stepIsWritable then
        .ok (expandSteps settings catalog position kinds)
      else .error .unwritable := by
  induction kinds generalizing position with
  | nil => rfl
  | cons kind rest ih =>
      rw [evaluateSteps, UnitKind.evaluate_eq, ih, expandSteps, List.all_cons, Outcome.stated]
      by_cases step : stepIsWritable ⟨kind.text, position, kind.expand settings catalog⟩ = true
      · rw [if_pos (isWritable_outcome_of_step step)]
        by_cases others : (expandSteps settings catalog (position + 1) rest).all stepIsWritable = true
        · simp [step, others, bind, Except.bind, pure, Except.pure]
        · simp [step, others, bind, Except.bind]
      · by_cases outcome : (kind.expand settings catalog).isWritable = true
        · simp [step, outcome, bind, Except.bind, throw, throwThe, MonadExceptOf.throw]
        · simp [step, outcome, bind, Except.bind]

/-- What a chain says is what its steps say, and what is said about its length. -/
theorem isWritable_ofSteps (text : Text) (kinds : List UnitKind) (steps : List Step) :
    (ofSteps settings text kinds steps).isWritable =
      (steps.all stepIsWritable && (lengthWarnings steps.length).all Warning.isWritable) := by
  have parts : steps.all stepIsWritable =
      ((steps.flatMap stepWarnings).all Warning.isWritable && (steps.flatMap stepIssues).all Issue.isWritable) := by
    rw [List.all_flatMap, List.all_flatMap]
    induction steps with
    | nil => rfl
    | cons step rest ih =>
        simp only [List.all_cons, ih, stepIsWritable]
        ac_rfl
  rw [parts]
  simp only [ofSteps]
  split
  · next quiet => simp [Outcome.isWritable, quiet]
  · next issue issues found =>
      rw [Outcome.isWritable, found, List.all_append]
      exact Bool.and_right_comm _ _ _

theorem evaluate_eq (text : Text) (kinds : List UnitKind) :
    evaluate settings catalog text kinds = (expand settings catalog text kinds).stated := by
  rw [evaluate, evaluateSteps_eq, expand, Expansion.stated, isWritable_ofSteps]
  by_cases steps : (expandSteps settings catalog 1 kinds).all stepIsWritable = true
  · rw [if_pos steps]
    change (ofSteps settings text kinds (expandSteps settings catalog 1 kinds)).stated = _
    rw [Expansion.stated, isWritable_ofSteps]
  · rw [if_neg steps, if_neg (by simp [steps])]
    rfl

end Chain

/-- A prompt is evaluated to its expansion, unless something that is said about it cannot be written. -/
theorem evaluate_eq (prompt : Text) :
    evaluate settings catalog prompt = (expand settings catalog prompt).stated := by
  rw [evaluate, expand]
  cases Kind.ofText? settings.maxPipelineSteps prompt with
  | error issue => rfl
  | ok kind =>
      cases kind with
      | single unit =>
          simp only [Kind.evaluate, UnitKind.evaluate_eq, Kind.expand, Outcome.stated]
          change _ = if (unit.expand settings catalog).isWritable then _ else _
          split <;> rfl
      | chain text steps => exact Chain.evaluate_eq settings catalog text steps

theorem evaluate_eq_ok_iff {prompt : Text} {expansion : Expansion} :
    evaluate settings catalog prompt = .ok expansion ↔
      (expand settings catalog prompt).isWritable = true ∧ expand settings catalog prompt = expansion := by
  rw [evaluate_eq, Expansion.stated]
  split <;> simp_all

theorem evaluate_eq_error_iff {prompt : Text} :
    evaluate settings catalog prompt = .error .unwritable ↔ (expand settings catalog prompt).isWritable = false := by
  rw [evaluate_eq, Expansion.stated]
  split <;> simp_all

end PromptTemplate
