import Mathlib
import PromptTemplate.Proofs.Expansion.Consistency

set_option autoImplicit false

namespace PromptTemplate

/-- A step as a part of its chain, with its outcome as an expansion of its own. -/
def Step.part (step : Step) : Text × Nat × Expansion :=
  (step.text, step.index, .ofUnit step.outcome)

/-- What a chain says of one step: the warnings of the step, and that only its first unit is used. -/
def Chain.partWarnings (index : Nat) (part : Expansion) : List String :=
  part.warnings.map (fun warning => s!"Step {index}: " ++ warning.message) ++
    if 1 < part.units.length then
      [s!"Step {index} has {part.units.length} variations but only first will be used in pipeline"]
    else []

def Chain.lengthAdvice (steps : Nat) : List String :=
  (if 10 < steps then [s!"Long pipeline detected: {steps} steps may take significant time"] else []) ++
    if 5 < steps then [s!"{steps}-step pipeline will use {steps} generations"] else []

namespace Expansion

/-- A prompt of which only one fault is told. -/
structure RefusedBy (expansion : Expansion) (diagnostic : Diagnostic) : Prop where
  invalid : expansion.isValid = false
  diagnostics : expansion.diagnostics = [diagnostic]
  units : expansion.units = []
  steps : expansion.steps = []
  warnings : expansion.warnings = []

/-- An expansion that is put together from the expansions of texts. Counts add up: there is one unit for
each text, whatever the number of its variants. -/
structure ComposedOf (whole : Expansion) (texts : List Text) (part : Text → Expansion) : Prop where
  steps : whole.steps.map Step.part =
    (texts.zipIdx 1).map fun entry => (entry.1, entry.2, part entry.1)
  isValid_iff : whole.isValid = true ↔ ∀ text ∈ texts, (part text).isValid = true
  diagnostics : whole.diagnostics = (texts.zipIdx 1).flatMap fun entry =>
    (part entry.1).diagnostics.map (Diagnostic.within s!"Step {entry.2}: ")
  warnings : whole.warnings.map Warning.message =
    ((texts.zipIdx 1).flatMap fun entry => Chain.partWarnings entry.2 (part entry.1)) ++
      Chain.lengthAdvice texts.length
  units : whole.isValid = true → whole.units.map some = texts.map fun text => (part text).units.head?
  totalCount : whole.isValid = true → whole.totalCount = texts.length

theorem unread_refusedBy (prompt : Text) (issue : Issue) :
    (unread prompt issue).RefusedBy issue.diagnostic :=
  ⟨rfl, rfl, rfl, rfl, rfl⟩

end Expansion

namespace Chain

theorem Fault.diagnostic?_validation (fault : Fault) :
    fault.validation.diagnostic? .malformed = some (Issue.chain fault).diagnostic := by
  simp only [Validation.diagnostic?, validation, message_isEmpty, Bool.false_eq_true, ↓reduceIte]
  rfl

variable (settings : Settings) (catalog : Catalog)

theorem map_part_expandSteps {texts : List Text} {kinds : List UnitKind} (position : Nat)
    (unbarred : ∀ text ∈ texts, bar ∉ text)
    (read : texts.map UnitKind.ofText? = kinds.map .ok) :
    (expandSteps settings catalog position kinds).map Step.part =
      (texts.zipIdx position).map fun entry =>
        (entry.1, entry.2, PromptTemplate.expand settings catalog entry.1) := by
  induction texts generalizing position kinds with
  | nil =>
      obtain rfl : kinds = [] := List.map_eq_nil_iff.mp read.symm
      rfl
  | cons text texts ih =>
      cases kinds with
      | nil => cases read
      | cons kind kinds =>
          rw [List.map_cons, List.map_cons, List.cons.injEq] at read
          rw [List.forall_mem_cons] at unbarred
          rw [expandSteps, List.map_cons, ih (position + 1) unbarred.2 read.2, List.zipIdx_cons,
            List.map_cons, expand_of_unit settings catalog unbarred.1 read.1, Step.part,
            UnitKind.text_of_ofText? read.1]

theorem map_message_stepWarnings (step : Step) :
    (stepWarnings step).map Warning.message = partWarnings step.index (.ofUnit step.outcome) := by
  simp only [stepWarnings, partWarnings, List.map_append, List.map_map]
  rw [apply_ite (List.map Warning.message)]
  rfl

theorem map_message_lengthWarnings (steps : Nat) :
    (lengthWarnings steps).map Warning.message = lengthAdvice steps := by
  simp only [lengthWarnings, lengthAdvice, List.map_append]
  rw [apply_ite (List.map Warning.message), apply_ite (List.map Warning.message)]
  rfl

theorem expand_composedOf (text : Text) {texts : List Text} {kinds : List UnitKind}
    (unbarred : ∀ text ∈ texts, bar ∉ text)
    (read : texts.map UnitKind.ofText? = kinds.map .ok) :
    (expand settings catalog text kinds).ComposedOf texts (PromptTemplate.expand settings catalog) := by
  have parts := map_part_expandSteps settings catalog 1 unbarred read
  have width : kinds.length = texts.length := by
    have lengths := congrArg List.length read
    simpa using lengths.symm
  refine ⟨?_, ?_, ?_, ?_, ?_, ?_⟩
  · rw [expand_steps, parts]
  · rw [expand_isValid_iff, stepIssues_eq_nil_iff]
    have regrouped : (∀ step ∈ expandSteps settings catalog 1 kinds, step.outcome.isValid = true) ↔
        ∀ part ∈ (expandSteps settings catalog 1 kinds).map Step.part, part.2.2.isValid = true := by
      rw [List.forall_mem_map]
      rfl
    rw [regrouped, parts, List.forall_mem_map]
    conv => rhs; rw [← List.zipIdx_map_fst 1 texts, List.forall_mem_map]
  · have regrouped : (expand settings catalog text kinds).diagnostics =
        ((expandSteps settings catalog 1 kinds).map Step.part).flatMap fun part =>
          part.2.2.diagnostics.map (Diagnostic.within s!"Step {part.2.1}: ") := by
      simp only [Outcome.diagnostics, expand_issues, List.map_flatMap, List.flatMap_map, stepIssues,
        List.map_map]
      rfl
    rw [regrouped, parts, List.flatMap_map]
  · have regrouped : ((expandSteps settings catalog 1 kinds).flatMap stepWarnings).map Warning.message =
        ((expandSteps settings catalog 1 kinds).map Step.part).flatMap fun part =>
          partWarnings part.2.1 part.2.2 := by
      simp only [List.map_flatMap, map_message_stepWarnings, List.flatMap_map]
      rfl
    rw [expand_warnings, List.map_append, regrouped, parts, List.flatMap_map,
      map_message_lengthWarnings, length_expandSteps, width]
  · intro valid
    have quiet := (expand_isValid_iff settings catalog text kinds).mp valid
    have regrouped : (expandSteps settings catalog 1 kinds).map Step.firstVariant? =
        ((expandSteps settings catalog 1 kinds).map Step.part).map (·.2.2.units.head?) := by
      rw [List.map_map]
      rfl
    rw [map_some_units_of_quiet settings catalog text quiet, regrouped, parts, List.map_map]
    conv => rhs; rw [← List.zipIdx_map_fst 1 texts, List.map_map]
    rfl
  · intro valid
    have quiet := (expand_isValid_iff settings catalog text kinds).mp valid
    rw [(expand_of_quiet settings catalog text kinds quiet).2.2.1, length_expandSteps, width]

end Chain

/-- The expansion of a text with bars. A fault of its structure is all that is said; else the first step
that cannot be read is; else the expansion is composed of the expansions of the steps. -/
theorem expand_barred_stepwise (settings : Settings) (catalog : Catalog) {text : Text}
    (barred : Chain.bar ∈ text) :
    let steps := Chain.splitSteps text
    let verdict := Chain.validate settings.maxPipelineSteps text
    let whole := expand settings catalog text
    (verdict.isValid = false → ∃ diagnostic,
      verdict.diagnostic? .malformed = some diagnostic ∧ whole.RefusedBy diagnostic) ∧
    (verdict.isValid = true →
      (∀ before step after fault, steps = before ++ step :: after →
        (∀ earlier ∈ before, ∃ unit, UnitKind.ofText? earlier = .ok unit) →
        UnitKind.ofText? step = .error fault →
        whole.RefusedBy
          ((Issue.bracket fault).diagnostic.within s!"Step {before.length + 1}: ")) ∧
      ((∀ step ∈ steps, ∃ unit, UnitKind.ofText? step = .ok unit) →
        whole.ComposedOf steps (expand settings catalog))) := by
  intro steps verdict whole
  have judged : verdict = Chain.validate settings.maxPipelineSteps text := rfl
  rw [Chain.validate] at judged
  cases sound : Chain.fault? settings.maxPipelineSteps text with
  | some fault =>
      rw [sound] at judged
      have unread : whole = .unread text (.chain fault) := by
        apply expand_of_unread
        rw [Kind.ofText?_of_barred _ barred, sound]
      rw [judged, unread]
      constructor
      · intro _
        exact ⟨_, fault.diagnostic?_validation, Expansion.unread_refusedBy text (.chain fault)⟩
      · intro valid
        cases valid
  | none =>
      rw [sound] at judged
      rw [judged]
      refine ⟨(fun invalid => by cases invalid), fun _ => ⟨?_, ?_⟩⟩
      · intro before step after fault split readable malformed
        have unread : whole = .unread text (.atStep (1 + before.length) (.bracket fault)) := by
          apply expand_of_unread
          rw [Kind.ofText?_of_barred _ barred, sound]
          change Except.map (Kind.chain text) (UnitKind.ofSteps? 1 steps) = _
          rw [split, UnitKind.ofSteps?_append_malformed readable malformed]
          rfl
        rw [unread, Nat.add_comm]
        exact Expansion.unread_refusedBy text _
      · intro readable
        obtain ⟨kinds, read⟩ := UnitKind.exists_kinds_of_readable readable
        have chain : whole = Chain.expand settings catalog text kinds :=
          expand_of_chain catalog barred sound read
        rw [chain]
        apply Chain.expand_composedOf settings catalog text _ read
        exact fun step member => Chain.bar_not_mem_of_mem_splitSteps member

/-- A text for each way that a chain can go: its bars are doubled, the second and the third step are
malformed, and every step can be read. -/
theorem expand_stepwise_of_each_regime :
    (∃ diagnostic, (Chain.validate 15 "ink || end".toList).diagnostic? .malformed = some diagnostic ∧
        (expand {} [] "ink || end".toList).RefusedBy diagnostic) ∧
      (expand {} [] "ink | [red | ]".toList).RefusedBy
        ((Issue.bracket .unclosed).diagnostic.within "Step 2: ") ∧
      (expand {} [] "ink | [red, blue] sky | end".toList).ComposedOf
        ["ink".toList, "[red, blue] sky".toList, "end".toList] (expand {} []) := by
  refine ⟨?_, ?_, ?_⟩
  · have barred : Chain.bar ∈ "ink || end".toList := by decide
    have faulty : (Chain.validate 15 "ink || end".toList).isValid = false := by decide +kernel
    exact (expand_barred_stepwise {} [] barred).1 faulty
  · have barred : Chain.bar ∈ "ink | [red | ]".toList := by decide
    have first := ((expand_barred_stepwise {} [] barred).2 (by cbv)).1
    have readable : ∀ earlier ∈ ["ink".toList], ∃ unit, UnitKind.ofText? earlier = .ok unit := by
      intro earlier member
      obtain rfl := List.mem_singleton.mp member
      exact ⟨.plain "ink".toList, by cbv⟩
    exact first ["ink".toList] "[red".toList ["]".toList] .unclosed (by cbv) readable (by cbv)
  · have barred : Chain.bar ∈ "ink | [red, blue] sky | end".toList := by decide
    have composed := ((expand_barred_stepwise {} [] barred).2 (by cbv)).2
    have split : Chain.splitSteps "ink | [red, blue] sky | end".toList =
        ["ink".toList, "[red, blue] sky".toList, "end".toList] := by cbv
    rw [split] at composed
    apply composed
    simp only [List.forall_mem_cons]
    exact ⟨⟨_, by cbv⟩, ⟨_, by cbv⟩, ⟨_, by cbv⟩, by simp⟩

end PromptTemplate
