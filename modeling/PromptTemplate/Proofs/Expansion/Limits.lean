import Mathlib
import PromptTemplate.Proofs.Expansion.Consistency

set_option autoImplicit false

namespace PromptTemplate

/-- Settings that refuse nothing that other settings let pass: their caps are no lower, and a threshold
that they enforce is enforced by the others at the same number or below. -/
structure Settings.Loosens (looser settings : Settings) : Prop where
  options : settings.maxBracketOptions ≤ looser.maxBracketOptions
  steps : settings.maxPipelineSteps ≤ looser.maxPipelineSteps
  threshold : looser.enforceThresholds = false ∨
    settings.enforceThresholds = true ∧ looser.enforceThresholds = true ∧
      settings.dangerThreshold ≤ looser.dangerThreshold

def UnitKind.variants (trimWhitespace : Bool) (catalog : Catalog) : UnitKind → List Text
  | .plain text => [text]
  | .bracketed _ group => group.options.map (group.unit trimWhitespace)
  | .wildcarded text names =>
    Selection.units text (Reference.names text) (Resolution.ofNames false catalog names).entries

namespace Kind

def stepVariants (trimWhitespace : Bool) (catalog : Catalog) : Kind → List (List Text)
  | .single _ => []
  | .chain _ steps => steps.map (·.variants trimWhitespace catalog)

/-- The units that a prompt stands for: of a chain the first variant of each step. -/
def variants (trimWhitespace : Bool) (catalog : Catalog) : Kind → List Text
  | .single unit => unit.variants trimWhitespace catalog
  | .chain text steps => (stepVariants trimWhitespace catalog (.chain text steps)).filterMap List.head?

end Kind

section

variable {settings : Settings} {catalog : Catalog}

theorem Selection.units_of_combine {text : Text} {entries : Text → List Text}
    (valid : (combine settings text entries).isValid = true) :
    (combine settings text entries).units = units text (Reference.names text) entries := by
  by_cases referring : Reference.names text = []
  · simp only [combine, referring, List.isEmpty_nil, ↓reduceIte]
    rfl
  · rw [combine_of_names settings entries referring] at valid ⊢
    split at valid
    · cases valid
    · rfl

namespace UnitKind

theorem units_of_valid {kind : UnitKind} (valid : (kind.expand settings catalog).isValid = true) :
    (kind.expand settings catalog).units = kind.variants settings.trimWhitespace catalog := by
  cases kind with
  | plain text => rfl
  | bracketed text group =>
      simp only [expand] at valid ⊢
      cases made : group.units? settings with
      | error issue =>
          rw [made] at valid
          cases valid
      | ok units => exact (Bracket.Group.units?_eq_ok_iff.mp made).2.2
  | wildcarded text names =>
      simp only [expand] at valid ⊢
      split at valid
      · next complete =>
          rw [if_pos complete]
          exact Selection.units_of_combine valid
      · cases valid

@[simp] theorem kind_expand (kind : UnitKind) : (kind.expand settings catalog).kind = some kind := by
  cases kind with
  | plain text => rfl
  | bracketed text group =>
      simp only [expand]
      split <;> rfl
  | wildcarded text names =>
      simp only [expand]
      split <;> rfl

end UnitKind

namespace Chain

variable {text : Text} {kinds : List UnitKind}

theorem map_units_steps (valid : (expand settings catalog text kinds).isValid = true) :
    (expand settings catalog text kinds).steps.map (fun step => step.outcome.units) =
      kinds.map (·.variants settings.trimWhitespace catalog) := by
  have outcomes := map_outcome_expandSteps settings catalog kinds 1
  have parts := (expand_isValid_iff_forall settings catalog text kinds).mp valid
  calc (expand settings catalog text kinds).steps.map (fun step => step.outcome.units)
      = ((expandSteps settings catalog 1 kinds).map Step.outcome).map (·.units) := by
        rw [expand_steps, List.map_map]
        rfl
    _ = kinds.map fun kind => (kind.expand settings catalog).units := by
        rw [outcomes, List.map_map]
        rfl
    _ = kinds.map (·.variants settings.trimWhitespace catalog) :=
        List.map_congr_left fun kind member => UnitKind.units_of_valid (parts kind member)

theorem units_of_valid (valid : (expand settings catalog text kinds).isValid = true) :
    (expand settings catalog text kinds).units =
      (Kind.chain text kinds).variants settings.trimWhitespace catalog := by
  have quiet := (expand_isValid_iff settings catalog text kinds).mp valid
  rw [(expand_of_quiet settings catalog text kinds quiet).2.1, ← expand_steps settings catalog text]
  rw [Kind.variants, Kind.stepVariants, ← map_units_steps valid, List.filterMap_map]
  rfl

theorem kind_expand (settings : Settings) (catalog : Catalog) (text : Text) (kinds : List UnitKind) :
    (expand settings catalog text kinds).kind = some (.chain text kinds) := by
  simp only [expand, ofSteps]
  split <;> rfl

end Chain

namespace Kind

theorem units_of_valid {kind : Kind} (valid : (kind.expand settings catalog).isValid = true) :
    (kind.expand settings catalog).units = kind.variants settings.trimWhitespace catalog := by
  cases kind with
  | single unit => exact UnitKind.units_of_valid valid
  | chain text kinds => exact Chain.units_of_valid valid

theorem map_units_steps {kind : Kind} (valid : (kind.expand settings catalog).isValid = true) :
    (kind.expand settings catalog).steps.map (fun step => step.outcome.units) =
      kind.stepVariants settings.trimWhitespace catalog := by
  cases kind with
  | single unit => rfl
  | chain text kinds => exact Chain.map_units_steps valid

theorem kind_expand (settings : Settings) (catalog : Catalog) (kind : Kind) :
    (kind.expand settings catalog).kind = some kind := by
  cases kind with
  | single unit =>
      change ((unit.expand settings catalog).kind.map Kind.single) = _
      rw [UnitKind.kind_expand]
      rfl
  | chain text kinds => exact Chain.kind_expand settings catalog text kinds

theorem ofText?_unique {maxSteps otherMax : Int} {text : Text} {kind other : Kind}
    (read : ofText? maxSteps text = .ok kind) (otherwise : ofText? otherMax text = .ok other) :
    kind = other := by
  rcases cases_of_ofText? read with ⟨unit, unbarred, alone, rfl⟩ | ⟨kinds, barred, _, steps, rfl⟩ <;>
    rcases cases_of_ofText? otherwise with
      ⟨otherUnit, otherUnbarred, otherAlone, rfl⟩ | ⟨otherKinds, otherBarred, _, otherSteps, rfl⟩
  · rw [Except.ok.inj (alone.symm.trans otherAlone)]
  · exact absurd otherBarred unbarred
  · exact absurd barred otherUnbarred
  · have injective : Function.Injective (Except.ok : UnitKind → Except Bracket.Fault UnitKind) :=
      fun _ _ => Except.ok.inj
    rw [List.map_injective_iff.mpr injective (steps.symm.trans otherSteps)]

end Kind

theorem exists_kind_of_valid {prompt : Text} (valid : (expand settings catalog prompt).isValid = true) :
    ∃ kind, Kind.ofText? settings.maxPipelineSteps prompt = .ok kind ∧
      expand settings catalog prompt = kind.expand settings catalog := by
  cases read : Kind.ofText? settings.maxPipelineSteps prompt with
  | error issue =>
      rw [expand_of_unread catalog read] at valid
      cases valid
  | ok kind => exact ⟨kind, rfl, by rw [expand, read]⟩

end

section

variable {settings looser : Settings} (loosens : looser.Loosens settings) {catalog : Catalog}

theorem Chain.fault?_mono {maxSteps otherMax : Int} (higher : maxSteps ≤ otherMax) {text : Text}
    (sound : fault? maxSteps text = none) : fault? otherMax text = none := by
  simp only [fault?] at sound ⊢
  split
  · rfl
  · next barred =>
      rw [if_neg barred] at sound
      split
      · next doubled =>
          rw [if_pos doubled] at sound
          cases sound
      · next apart =>
          rw [if_neg apart] at sound
          split
          · next position blank =>
              rw [blank] at sound
              cases sound
          · next filled =>
              simp only [filled] at sound
              split at sound
              · cases sound
              · rw [if_neg (by omega)]

theorem Kind.ofText?_mono {maxSteps otherMax : Int} (higher : maxSteps ≤ otherMax) {text : Text}
    {kind : Kind} (read : ofText? maxSteps text = .ok kind) : ofText? otherMax text = .ok kind := by
  by_cases barred : Chain.bar ∈ text
  · rw [ofText?_of_barred _ barred] at read ⊢
    cases sound : Chain.fault? maxSteps text with
    | some fault =>
        rw [sound] at read
        cases read
    | none =>
        rw [sound] at read
        rw [Chain.fault?_mono higher sound]
        exact read
  · rw [ofText?_of_unbarred _ barred] at read ⊢
    exact read

include loosens

theorem Bracket.Group.units?_mono {group : Group} {units : List Text}
    (made : group.units? settings = .ok units) : ∃ others, group.units? looser = .ok others := by
  obtain ⟨present, within, _⟩ := units?_eq_ok_iff.mp made
  exact ⟨_, units?_eq_ok_iff.mpr ⟨present, Int.le_trans within loosens.options, rfl⟩⟩

theorem Selection.refusal?_mono {entries : Text → List Text} {names : List Text}
    (allowed : refusal? settings entries names = none) : refusal? looser entries names = none := by
  have resolved := resolved_of_refusal? allowed
  rw [refusal?_of_resolved settings resolved] at allowed
  rw [refusal?_of_resolved looser resolved]
  split at allowed
  · cases allowed
  · next below =>
      rw [if_neg]
      rintro ⟨enforced, exceeded⟩
      rcases loosens.threshold with free | ⟨enforcing, _, higher⟩
      · rw [free] at enforced
        cases enforced
      · exact below ⟨enforcing, by omega⟩

theorem Selection.combine_isValid_mono {text : Text} {entries : Text → List Text}
    (valid : (combine settings text entries).isValid = true) :
    (combine looser text entries).isValid = true := by
  by_cases referring : Reference.names text = []
  · simp only [combine, referring, List.isEmpty_nil, ↓reduceIte]
    rfl
  · rw [combine_of_names _ entries referring] at valid ⊢
    cases allowed : refusal? settings entries (Reference.names text) with
    | some issue =>
        rw [allowed] at valid
        cases valid
    | none =>
        rw [refusal?_mono loosens allowed]
        rfl

theorem UnitKind.expand_isValid_mono {kind : UnitKind}
    (valid : (kind.expand settings catalog).isValid = true) :
    (kind.expand looser catalog).isValid = true := by
  cases kind with
  | plain text => rfl
  | bracketed text group =>
      simp only [expand] at valid ⊢
      cases made : group.units? settings with
      | error issue =>
          rw [made] at valid
          cases valid
      | ok units =>
          obtain ⟨others, remade⟩ := Bracket.Group.units?_mono loosens made
          rw [remade]
          rfl
  | wildcarded text names =>
      simp only [expand] at valid ⊢
      split at valid
      · next complete =>
          rw [if_pos complete]
          exact Selection.combine_isValid_mono loosens valid
      · cases valid

theorem Kind.expand_isValid_mono {kind : Kind} (valid : (kind.expand settings catalog).isValid = true) :
    (kind.expand looser catalog).isValid = true := by
  cases kind with
  | single unit => exact UnitKind.expand_isValid_mono loosens valid
  | chain text kinds =>
      rw [expand, Chain.expand_isValid_iff_forall] at valid ⊢
      exact fun kind member => UnitKind.expand_isValid_mono loosens (valid kind member)

theorem expand_isValid_mono {prompt : Text} (valid : (expand settings catalog prompt).isValid = true) :
    (expand looser catalog prompt).isValid = true := by
  obtain ⟨kind, read, made⟩ := exists_kind_of_valid valid
  rw [made] at valid
  rw [expand, Kind.ofText?_mono loosens.steps read]
  exact Kind.expand_isValid_mono loosens valid

end

/-- Limits gate. Two settings that treat white space alike and let a prompt pass give it the same units,
the same count and kind, and the same units for each step; and what some settings let pass, looser ones let
pass too. -/
theorem limits_gate (settings others : Settings) (catalog : Catalog) (prompt : Text) :
    let first := expand settings catalog prompt
    let second := expand others catalog prompt
    (settings.trimWhitespace = others.trimWhitespace → first.isValid = true → second.isValid = true →
      first.units = second.units ∧ first.totalCount = second.totalCount ∧ first.kind = second.kind ∧
        first.steps.map (fun step => step.outcome.units) =
          second.steps.map fun step => step.outcome.units) ∧
    (others.Loosens settings → first.isValid = true → second.isValid = true) := by
  intro first second
  refine ⟨?_, fun loosens valid => expand_isValid_mono loosens valid⟩
  intro alike valid otherValid
  have counted := ((expand_consistent settings catalog prompt).counted valid).1
  have otherCounted := ((expand_consistent others catalog prompt).counted otherValid).1
  obtain ⟨kind, read, made⟩ := exists_kind_of_valid valid
  obtain ⟨otherKind, reread, remade⟩ := exists_kind_of_valid otherValid
  obtain rfl := Kind.ofText?_unique read reread
  change first = _ at made
  change second = _ at remade
  rw [made] at valid
  rw [remade] at otherValid
  have units : first.units = second.units := by
    rw [made, remade, Kind.units_of_valid valid, Kind.units_of_valid otherValid, alike]
  refine ⟨units, ?_, ?_, ?_⟩
  · change first.totalCount = first.units.length at counted
    change second.totalCount = second.units.length at otherCounted
    rw [counted, otherCounted, units]
  · rw [made, remade, Kind.kind_expand, Kind.kind_expand]
  · rw [made, remade, Kind.map_units_steps valid, Kind.map_units_steps otherValid, alike]

/-- A chain of a wildcard step and a bracket step under the tightest limits that let it pass, and under
looser ones. -/
theorem limits_gate_of_two_steps :
    let tight : Settings :=
      { maxBracketOptions := 2, maxPreview := 1, warnThreshold := 1, dangerThreshold := 3,
        maxPipelineSteps := 2, enforceThresholds := true }
    let loose : Settings := { maxBracketOptions := 3, dangerThreshold := 7, enforceThresholds := true }
    let catalog : Catalog := [⟨"hero".toList, ["Ann".toList, "Bo".toList, "Cy".toList]⟩]
    let prompt := "_hero_ waves | [red, blue] sky".toList
    loose.Loosens tight ∧ (expand tight catalog prompt).isValid = true ∧
      (expand loose catalog prompt).isValid = true ∧
      (expand tight catalog prompt).units = (expand loose catalog prompt).units ∧
      (expand tight catalog prompt).kind = (expand loose catalog prompt).kind := by
  intro tight loose catalog prompt
  obtain ⟨agree, loosen⟩ := limits_gate tight loose catalog prompt
  have loosens : loose.Loosens tight := by
    refine ⟨by decide, by decide, Or.inr ⟨rfl, rfl, by decide⟩⟩
  have valid : (expand tight catalog prompt).isValid = true := by
    simp only [tight, catalog, prompt]
    cbv
  have otherValid := loosen loosens valid
  obtain ⟨units, _, kind, _⟩ := agree rfl valid otherValid
  exact ⟨loosens, valid, otherValid, units, kind⟩

end PromptTemplate
