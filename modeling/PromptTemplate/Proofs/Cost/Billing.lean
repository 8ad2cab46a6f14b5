import PromptTemplate.Proofs.Cost.Pricing
import PromptTemplate.Proofs.Text.Numerals

set_option autoImplicit false

namespace PromptTemplate

/-- The texts that an expansion is billed by: the steps of a chain, or the units. -/
def Expansion.sources (expansion : Expansion) : List Text :=
  if expansion.isPipeline then expansion.steps.map Step.text else expansion.units

theorem Expansion.sources_of_flat {expansion : Expansion} (flat : expansion.isPipeline = false) :
    expansion.sources = expansion.units := by
  simp [sources, flat]

theorem Expansion.sources_of_pipeline {expansion : Expansion} (shape : expansion.isPipeline = true) :
    expansion.sources = expansion.steps.map Step.text := by
  simp [sources, shape]

/-- An estimate with one line of the price for each unit, numbered from one, which names the unit or the
step that makes it. -/
structure Estimate.Bills (estimate : Estimate) (expansion : Expansion) (price : Float) : Prop where
  unitCount : estimate.unitCount = expansion.totalCount
  indices : estimate.breakdown.map CostLine.index =
    (List.range' 1 estimate.unitCount).map fun index : Nat => (index : Int)
  costs : ∀ line ∈ estimate.breakdown, line.cost = price
  perUnit : estimate.perUnit = price
  flat : expansion.isPipeline = false →
    estimate.breakdown.map CostLine.sourceText = expansion.units
  chain : expansion.isPipeline = true → expansion.isValid = true →
    estimate.breakdown.map CostLine.sourceText = expansion.steps.map Step.text ∧
      estimate.breakdown.map CostLine.sourceText = Chain.splitSteps expansion.prompt
  total : expansion.isValid = true → ∃ count,
    Decimal.floatOfInt? expansion.totalCount = some count ∧ estimate.totalCost = price * count
  refused : expansion.isValid = false → estimate.totalCost = 0.0 ∧ estimate.breakdown = []

theorem Workload.numbered_eq_map (position : Nat) (texts : List Text) :
    numbered position texts = (texts.zipIdx position).map fun entry => ((entry.2 : Int), entry.1) := by
  induction texts generalizing position with
  | nil => rfl
  | cons text texts ih =>
      rw [numbered, List.zipIdx_cons, List.map_cons, ← ih (position + 1)]
      rfl

section

variable (settings : Settings) (catalog : Catalog)

theorem Chain.map_text_expandSteps (position : Nat) (kinds : List UnitKind) :
    (expandSteps settings catalog position kinds).map Step.text = kinds.map UnitKind.text := by
  conv => rhs; rw [← List.zipIdx_map_fst position kinds]
  rw [expandSteps_eq_map, List.map_map, List.map_map]
  rfl

theorem Chain.map_line_expandSteps (position : Nat) (kinds : List UnitKind) :
    (expandSteps settings catalog position kinds).map (fun step => ((step.index : Int), step.text)) =
      ((kinds.map UnitKind.text).zipIdx position).map fun entry => ((entry.2 : Int), entry.1) := by
  rw [expandSteps_eq_map, List.zipIdx_map, List.map_map, List.map_map]
  rfl

variable (prompt : Text)

theorem executionPrompts_expand : (expand settings catalog prompt).executionPrompts =
    (expand settings catalog prompt).units.map some := by
  rcases expand_cases settings catalog prompt with
    ⟨issue, unread⟩ | ⟨unit, unbarred, read, single⟩ | ⟨kinds, barred, read, chain⟩
  · rw [unread]
    rfl
  · have consistent := expand_consistent settings catalog prompt
    have flat : (expand settings catalog prompt).isPipeline = false := by
      rw [single]
      rfl
    cases valid : (expand settings catalog prompt).isValid with
    | true => simp [Expansion.executionPrompts, valid, flat]
    | false => simp [Expansion.executionPrompts, valid, (consistent.empty valid).1]
  · rw [chain]
    by_cases quiet : (Chain.expandSteps settings catalog 1 kinds).flatMap Chain.stepIssues = []
    · have valid := (Chain.expand_of_quiet settings catalog prompt kinds quiet).1
      rw [Chain.map_some_units_of_quiet settings catalog prompt quiet]
      simp [Expansion.executionPrompts, valid]
    · obtain ⟨invalid, empty, _⟩ := Chain.expand_of_issues settings catalog prompt kinds quiet
      simp [Expansion.executionPrompts, invalid, empty]

theorem lines_expand : (expand settings catalog prompt).workload.lines =
    ((expand settings catalog prompt).sources.zipIdx 1).map
      fun entry => ((entry.2 : Int), entry.1) := by
  cases shape : (expand settings catalog prompt).isPipeline with
  | false =>
      simp only [Expansion.workload, Expansion.sources, shape]
      exact Workload.numbered_eq_map 1 _
  | true =>
      simp only [Expansion.workload, Expansion.sources, shape]
      rcases expand_cases settings catalog prompt with
        ⟨issue, unread⟩ | ⟨unit, unbarred, read, single⟩ | ⟨kinds, barred, read, chain⟩
      · rw [unread]
        rfl
      · rw [single]
        rfl
      · rw [chain, Chain.expand_steps]
        rw [Chain.map_text_expandSteps]
        exact Chain.map_line_expandSteps settings catalog 1 kinds

/-- A valid expansion is billed by as many texts as it counts units. -/
theorem length_sources_expand (valid : (expand settings catalog prompt).isValid = true) :
    (expand settings catalog prompt).sources.length = (expand settings catalog prompt).totalCount := by
  have counted := ((expand_consistent settings catalog prompt).counted valid).1
  cases shape : (expand settings catalog prompt).isPipeline with
  | false => simp [Expansion.sources, shape, counted]
  | true =>
      have run := congrArg List.length (executionPrompts_expand settings catalog prompt)
      simp only [Expansion.executionPrompts, valid, shape, List.length_map] at run
      simp [Expansion.sources, shape, counted, ← run]

theorem sources_of_chain (valid : (expand settings catalog prompt).isValid = true)
    (shape : (expand settings catalog prompt).isPipeline = true) :
    (expand settings catalog prompt).sources = Chain.splitSteps (expand settings catalog prompt).prompt := by
  rcases expand_cases settings catalog prompt with
    ⟨issue, unread⟩ | ⟨unit, unbarred, read, single⟩ | ⟨kinds, barred, read, chain⟩
  · rw [unread] at valid
    cases valid
  · rw [single] at shape
    cases shape
  · rw [chain, Expansion.sources, Chain.expand_isPipeline, Chain.expand_steps, Chain.expand_prompt,
      Chain.map_text_expandSteps, UnitKind.map_text_of_read read]
    rfl

/-- A refused expansion is billed nothing, whatever steps it keeps. -/
theorem bills_of_refused (price : Float)
    (refused : (expand settings catalog prompt).isValid = false) :
    Estimate.Bills ⟨0.0, price, []⟩ (expand settings catalog prompt) price := by
  obtain ⟨empty, counted, _⟩ := (expand_consistent settings catalog prompt).empty refused
  refine ⟨counted.symm, rfl, ?_, rfl, fun _ => empty.symm, ?_, ?_, fun _ => ⟨rfl, rfl⟩⟩
  · intro line member
    cases member
  · intro _ valid
    rw [refused] at valid
    cases valid
  · intro valid
    rw [refused] at valid
    cases valid

theorem bills_of_valid (price : Float) {count : Float}
    (valid : (expand settings catalog prompt).isValid = true)
    (counted : Decimal.floatOfInt? (expand settings catalog prompt).totalCount = some count) :
    Estimate.Bills ⟨price * count, price,
      (expand settings catalog prompt).workload.lines.map fun line => ⟨line.1, price, line.2⟩⟩
      (expand settings catalog prompt) price := by
  rw [lines_expand, List.map_map]
  have length := length_sources_expand settings catalog prompt valid
  have billed : ∀ texts : List Text,
      ((texts.zipIdx 1).map fun entry => (⟨entry.2, price, entry.1⟩ : CostLine)).map
        CostLine.sourceText = texts := by
    intro texts
    rw [List.map_map]
    exact List.zipIdx_map_fst 1 texts
  refine ⟨?_, ?_, ?_, rfl, ?_, ?_, fun _ => ⟨count, counted, rfl⟩, ?_⟩
  · simp [Estimate.unitCount, length]
  · simp only [Estimate.unitCount, List.length_map, List.length_zipIdx, List.map_map]
    rw [← List.zipIdx_map_snd, List.map_map]
    rfl
  · intro line member
    obtain ⟨entry, _, rfl⟩ := List.mem_map.mp member
    rfl
  · intro flat
    rw [← Expansion.sources_of_flat flat]
    exact billed _
  · intro shape _
    constructor
    · rw [← Expansion.sources_of_pipeline shape]
      exact billed _
    · rw [← sources_of_chain settings catalog prompt valid shape]
      exact billed _
  · intro refused
    rw [valid] at refused
    cases refused

theorem bills_of_estimate? {price : Float} {estimate : Estimate}
    (made : (expand settings catalog prompt).workload.estimate? price = some estimate) :
    estimate.Bills (expand settings catalog prompt) price := by
  cases valid : (expand settings catalog prompt).isValid with
  | false =>
      rw [Workload.estimate?_of_refused valid] at made
      cases made
      exact bills_of_refused settings catalog prompt price valid
  | true =>
      rw [Workload.estimate?_of_valid valid, Option.map_eq_some_iff] at made
      obtain ⟨count, counted, rfl⟩ := made
      exact bills_of_valid settings catalog prompt price valid counted

end

/-- What is billed is what is run, at any price that is given or set, by any evaluator of formulas. The prompts to run
are the units and are counted right. An expansion that is made is billed, unless its units are more than the largest
float. One that cannot be made is not billed either. -/
theorem evaluateWithCost_bills_run (room : Nat) (formula : Formula.Evaluator) (settings : Settings) (catalog : Catalog)
    (prompt : Text) {given : Option Value} {cost : Value} {price : Float}
    (chosen : given.or settings.perUnitCost = some cost)
    (accepted : Price.read room formula .ok cost = .ok price) :
    let expansion := expand settings catalog prompt
    expansion.executionPrompts = expansion.units.map some ∧
      expansion.totalCount = expansion.executionPrompts.length ∧
      (evaluate settings catalog prompt = .ok expansion →
        (expansion.totalCount < Decimal.leastBeyondFloat → ∃ estimate,
          evaluateWithCost room formula settings catalog prompt given = .ok (expansion, some estimate) ∧
            estimate.Bills expansion price) ∧
        (Decimal.leastBeyondFloat ≤ expansion.totalCount →
          evaluateWithCost room formula settings catalog prompt given = .error .countBeyondFloat)) ∧
      ∀ failure, evaluate settings catalog prompt = .error failure →
        evaluateWithCost room formula settings catalog prompt given = .error (.expansion failure) := by
  intro expansion
  have run : expansion.executionPrompts = expansion.units.map some :=
    executionPrompts_expand settings catalog prompt
  have consistent : expansion.Consistent := expand_consistent settings catalog prompt
  have beyond := estimate?_eq_none_iff settings catalog prompt price
  refine ⟨run, ?_, fun made => ?_, fun failure failed => ?_⟩
  · rw [run, List.length_map]
    cases valid : expansion.isValid with
    | false =>
        obtain ⟨empty, counted, _⟩ := consistent.empty valid
        rw [empty, counted]
        rfl
    | true => exact (consistent.counted valid).1
  · have billed : evaluateWithCost room formula settings catalog prompt given =
        (expansion.bill room formula settings given).map fun estimate => (expansion, estimate) := by
      rw [evaluateWithCost, made]
      rfl
    rw [billed, bill_of_accepted expansion chosen accepted]
    constructor
    · intro inside
      cases estimated : expansion.workload.estimate? price with
      | none => exact absurd (beyond.mp estimated) (Nat.not_le.mpr inside)
      | some estimate => exact ⟨estimate, rfl, bills_of_estimate? settings catalog prompt estimated⟩
    · intro outside
      rw [beyond.mpr outside]
      rfl
  · rw [evaluateWithCost, failed]
    rfl

/-- Three steps make three lines, though the second step has two variants. -/
theorem three_lines_of_three_steps :
    let prompt := "ink | [red, blue] sky | end".toList
    Price.read 900 Formula.evaluate .ok (.float 0.25) = .ok 0.25 ∧ ∃ estimate,
      evaluateWithCost 900 Formula.evaluate {} [] prompt (some (.float 0.25)) =
        .ok (expand {} [] prompt, some estimate) ∧
      estimate.Bills (expand {} [] prompt) 0.25 ∧ estimate.unitCount = 3 := by
  intro prompt
  have accepted : Price.read 900 Formula.evaluate .ok (.float 0.25) = .ok 0.25 := rfl
  have chosen : (some (.float 0.25)).or ({} : Settings).perUnitCost = some (.float 0.25) := rfl
  obtain ⟨_, _, billed, _⟩ := evaluateWithCost_bills_run 900 Formula.evaluate {} [] prompt chosen accepted
  have issues : (expand {} [] prompt).issues = [] := by
    simp only [prompt]
    cbv
  have warnings : (expand {} [] prompt).warnings = [.unusedVariants 2 2] := by
    simp only [prompt]
    cbv
  have written : (expand {} [] prompt).isWritable = true := by
    rw [Outcome.isWritable, issues, warnings]
    simp [Warning.isWritable, Text.hasNumeral_of_le_ten]
  have counted : (expand {} [] prompt).totalCount = 3 := by
    simp only [prompt]
    cbv
  have inside : 3 < Decimal.leastBeyondFloat := by decide +kernel
  rw [← counted] at inside
  obtain ⟨estimate, made, bills⟩ := (billed ((evaluate_eq_ok_iff {} []).mpr ⟨written, rfl⟩)).1 inside
  exact ⟨accepted, estimate, made, bills, bills.unitCount.trans counted⟩

end PromptTemplate
