import PromptTemplate.Proofs.Expansion.Limits
import PromptTemplate.Proofs.Text.Words

set_option autoImplicit false

namespace PromptTemplate

def UnitKind.isBracketed : UnitKind → Bool
  | .bracketed _ _ => true
  | _ => false

/-- Whether the unit at a position comes from brackets: in a chain it comes from the step at that position. -/
def Kind.isBracketedAt (i : Nat) : Kind → Bool
  | .single unit => unit.isBracketed
  | .chain _ steps => steps[i]?.any UnitKind.isBracketed

namespace Outcome

variable {κ : Type}

/-- The outcome with its units at some positions collapsed. -/
def collapseAt (bracketed : Nat → Bool) (outcome : Outcome κ) : Outcome κ :=
  { outcome with units := outcome.units.mapIdx fun i unit => if bracketed i then Text.collapse unit else unit }

/-- Two outcomes that differ in the white space of some units only: there the one has it as it was written and the other
collapsed. -/
structure Respaced (bracketed : Nat → Bool) (written trimmed : Outcome κ) : Prop where
  isValid : trimmed.isValid = written.isValid
  prompt : trimmed.prompt = written.prompt
  diagnostics : trimmed.diagnostics = written.diagnostics
  warnings : trimmed.warnings = written.warnings
  totalCount : trimmed.totalCount = written.totalCount
  previewCount : trimmed.previewCount = written.previewCount
  kind : trimmed.kind = written.kind
  names : trimmed.names = written.names
  length : trimmed.units.length = written.units.length
  kept : ∀ i, bracketed i = false → trimmed.units[i]? = written.units[i]?
  collapsed : ∀ i text other, bracketed i = true → written.units[i]? = some text → trimmed.units[i]? = some other →
    Text.CollapsesTo text other

theorem getElem?_units_collapseAt (bracketed : Nat → Bool) (outcome : Outcome κ) (i : Nat) :
    (outcome.collapseAt bracketed).units[i]? =
      outcome.units[i]?.map fun unit => if bracketed i then Text.collapse unit else unit :=
  List.getElem?_mapIdx

theorem respaced_collapseAt (bracketed : Nat → Bool) (outcome : Outcome κ) :
    outcome.Respaced bracketed (outcome.collapseAt bracketed) where
  isValid := rfl
  prompt := rfl
  diagnostics := rfl
  warnings := rfl
  totalCount := rfl
  previewCount := rfl
  kind := rfl
  names := rfl
  length := List.length_mapIdx
  kept i plain := by simp [getElem?_units_collapseAt, plain]
  collapsed i text other there found made := by
    rw [getElem?_units_collapseAt, found, Option.map_some, if_pos there, Option.some_inj] at made
    exact made ▸ Text.collapsesTo_collapse text

/-- Where all units are treated alike their positions do not matter. -/
theorem collapseAt_const (bracketed : Bool) (outcome : Outcome κ) :
    outcome.collapseAt (fun _ => bracketed) =
      { outcome with units := outcome.units.map fun unit => if bracketed then Text.collapse unit else unit } := by
  rw [collapseAt]
  congr 1
  apply List.ext_getElem?
  intro i
  rw [List.getElem?_mapIdx, List.getElem?_map]

end Outcome

/-- Two steps of which only the units differ, in their white space if the step has a group. -/
structure Step.Respaced (written trimmed : Step) : Prop where
  text : trimmed.text = written.text
  index : trimmed.index = written.index
  outcome : written.outcome.Respaced (fun _ => written.outcome.kind.any UnitKind.isBracketed) trimmed.outcome

section

variable (settings : Settings) (catalog : Catalog)

/-- A group has the same prompts with their white space collapsed, and none for the same reason. -/
theorem Bracket.Group.units?_trimming (group : Group) :
    group.units? { settings with trimWhitespace := true } =
      (group.units? { settings with trimWhitespace := false }).map (List.map Text.collapse) := by
  simp only [units?]
  split
  · rfl
  · split
    · rfl
    · simp [Except.map, unit]

theorem UnitKind.expand_trimming (kind : UnitKind) :
    kind.expand { settings with trimWhitespace := true } catalog =
      (kind.expand { settings with trimWhitespace := false } catalog).collapseAt fun _ => kind.isBracketed := by
  cases kind with
  | plain text => rfl
  | bracketed text group =>
      simp only [expand, Bracket.Group.units?_trimming, isBracketed, Outcome.collapseAt_const]
      cases group.units? { settings with trimWhitespace := false } with
      | error issue => rfl
      | ok units => simp [Except.map, Outcome.accepted]
  | wildcarded text names =>
      simp only [isBracketed, Outcome.collapseAt_const, Bool.false_eq_true, ↓reduceIte, List.map_id']
      rfl

namespace Chain

variable (text : Text) (kinds : List UnitKind)

/-- What a chain says of its steps does not depend on what their units are, but for their number. -/
theorem flatMap_expandSteps_trimming {β : Type} (said : Step → List β)
    (blind : ∀ (text : Text) (index : Nat) (outcome : Outcome UnitKind) (bracketed : Nat → Bool),
      said ⟨text, index, outcome.collapseAt bracketed⟩ = said ⟨text, index, outcome⟩) :
    (expandSteps { settings with trimWhitespace := true } catalog 1 kinds).flatMap said =
      (expandSteps { settings with trimWhitespace := false } catalog 1 kinds).flatMap said := by
  simp only [expandSteps_eq_map, List.flatMap_map, UnitKind.expand_trimming, blind]

theorem stepIssues_trimming :
    (expandSteps { settings with trimWhitespace := true } catalog 1 kinds).flatMap stepIssues =
      (expandSteps { settings with trimWhitespace := false } catalog 1 kinds).flatMap stepIssues :=
  flatMap_expandSteps_trimming settings catalog kinds stepIssues fun _ _ _ _ => rfl

/-- The unit at a position of a chain that carries on is the first one of the step there. -/
theorem getElem?_units_of_quiet
    (quiet : (expandSteps settings catalog 1 kinds).flatMap stepIssues = []) (i : Nat) :
    (expand settings catalog text kinds).units[i]? =
      kinds[i]?.bind fun kind => (kind.expand settings catalog).units.head? := by
  have each := congrArg (·[i]?) (map_some_units_of_quiet settings catalog text quiet)
  simp only [expandSteps_eq_map, List.getElem?_map, List.getElem?_zipIdx, Option.map_map] at each
  cases found : kinds[i]? with
  | none =>
      rw [found, Option.map_none, Option.map_eq_none_iff] at each
      exact each
  | some kind =>
      rw [found, Option.map_some, Option.map_eq_some_iff] at each
      obtain ⟨unit, carried, first⟩ := each
      rw [carried, first]
      rfl

theorem getElem?_units_trimming (i : Nat)
    (quiet : (expandSteps { settings with trimWhitespace := false } catalog 1 kinds).flatMap stepIssues = []) :
    (expand { settings with trimWhitespace := true } catalog text kinds).units[i]? =
      ((expand { settings with trimWhitespace := false } catalog text kinds).collapseAt
        ((Kind.chain text kinds).isBracketedAt ·)).units[i]? := by
  have still := (stepIssues_trimming settings catalog kinds).trans quiet
  rw [getElem?_units_of_quiet _ _ _ _ still, Outcome.getElem?_units_collapseAt, getElem?_units_of_quiet _ _ _ _ quiet]
  cases found : kinds[i]? with
  | none => rfl
  | some kind => simp [UnitKind.expand_trimming, Outcome.collapseAt_const, Kind.isBracketedAt, found]

/-- A chain carries on the same variant of each step, so that its units are collapsed where their steps have groups. -/
theorem expand_trimming :
    (expand { settings with trimWhitespace := true } catalog text kinds).toOutcome =
      (expand { settings with trimWhitespace := false } catalog text kinds).collapseAt
        ((Kind.chain text kinds).isBracketedAt ·) := by
  have issues := stepIssues_trimming settings catalog kinds
  have warnings := flatMap_expandSteps_trimming settings catalog kinds stepWarnings fun _ _ _ _ => by
    simp [stepWarnings, Outcome.collapseAt]
  by_cases quiet : (expandSteps { settings with trimWhitespace := false } catalog 1 kinds).flatMap stepIssues = []
  · have units := List.ext_getElem? fun i => getElem?_units_trimming settings catalog text kinds i quiet
    simp only [expand, ofSteps, Outcome.collapseAt, issues, quiet, warnings, length_expandSteps] at units ⊢
    rw [units]
  · simp only [expand, ofSteps, Outcome.collapseAt, issues, warnings, length_expandSteps]
    split
    · next none => exact absurd none quiet
    · rfl

theorem respaced_expandSteps (position : Nat) :
    List.Forall₂ Step.Respaced (expandSteps { settings with trimWhitespace := false } catalog position kinds)
      (expandSteps { settings with trimWhitespace := true } catalog position kinds) := by
  induction kinds generalizing position with
  | nil => exact .nil
  | cons kind rest ih =>
      refine .cons ⟨rfl, rfl, ?_⟩ (ih (position + 1))
      simp only [UnitKind.expand_trimming, UnitKind.kind_expand, Option.any_some]
      exact Outcome.respaced_collapseAt _ _

end Chain

namespace Kind

variable (kind : Kind)

theorem expand_trimming :
    (kind.expand { settings with trimWhitespace := true } catalog).toOutcome =
      (kind.expand { settings with trimWhitespace := false } catalog).collapseAt (kind.isBracketedAt ·) := by
  cases kind with
  | single unit =>
      simp only [expand, UnitKind.expand_trimming]
      rfl
  | chain text kinds => exact Chain.expand_trimming settings catalog text kinds

theorem respaced_steps :
    List.Forall₂ Step.Respaced (kind.expand { settings with trimWhitespace := false } catalog).steps
      (kind.expand { settings with trimWhitespace := true } catalog).steps := by
  cases kind with
  | single unit => exact .nil
  | chain text kinds =>
      simp only [expand, Chain.expand_steps]
      exact Chain.respaced_expandSteps settings catalog kinds 1

end Kind

/-- Trimming white space changes white space only. With it and without it an expansion says the same of a prompt, has
as many units and the same steps. A unit that does not come from brackets is the same, and one that does is collapsed:
each blank run is one space and both ends are stripped, so that the words are kept and nothing is left to collapse. The
units of each step are as those of the whole. -/
theorem trimming_changes_white_space (prompt : Text) :
    let written := expand { settings with trimWhitespace := false } catalog prompt
    let trimmed := expand { settings with trimWhitespace := true } catalog prompt
    written.toOutcome.Respaced (fun i => written.kind.any (·.isBracketedAt i)) trimmed.toOutcome ∧
      trimmed.isPipeline = written.isPipeline ∧ List.Forall₂ Step.Respaced written.steps trimmed.steps := by
  intro written trimmed
  have piped : trimmed.isPipeline = written.isPipeline := by
    rw [Bool.eq_iff_iff, isPipeline_expand_iff, isPipeline_expand_iff]
  cases reading : Kind.ofText? settings.maxPipelineSteps prompt with
  | error issue =>
      have unread : written = .unread prompt issue := expand_of_unread catalog reading
      have alike : trimmed = .unread prompt issue := expand_of_unread catalog reading
      rw [unread, alike]
      exact ⟨Outcome.respaced_collapseAt _ _, rfl, .nil⟩
  | ok kind =>
      have read : written = kind.expand _ catalog := expand_of_read catalog reading
      have reread : trimmed = kind.expand _ catalog := expand_of_read catalog reading
      refine ⟨?_, piped, ?_⟩
      · rw [read, reread, Kind.expand_trimming, Kind.kind_expand]
        exact Outcome.respaced_collapseAt _ _
      · rw [read, reread]
        exact kind.respaced_steps settings catalog

end

end PromptTemplate
