import PromptTemplate.Catalog.Resolution
import PromptTemplate.Expansion.Basic
import PromptTemplate.Selection
import PromptTemplate.Settings.Basic

set_option autoImplicit false

namespace PromptTemplate

namespace Bracket

def Group.unit (group : Group) (trimWhitespace : Bool) (option : Text) : Text :=
  let written := group.before ++ option ++ group.after
  if trimWhitespace then Text.collapse written else written

/-- The prompts of a group, one for each option. Without an option, or with too many, there is none. -/
def Group.units? (group : Group) (settings : Settings) : Except Issue (List Text) :=
  if group.options.isEmpty then .error .noUsableOption
  else if settings.maxBracketOptions < group.options.length then
    .error (.tooManyOptions group.options.length settings.maxBracketOptions)
  else .ok (group.options.map (group.unit settings.trimWhitespace))

theorem Group.units?_of_no_option {group : Group} (settings : Settings) (none : group.options = []) :
    group.units? settings = .error .noUsableOption := by
  simp only [units?, none, List.isEmpty_nil, ↓reduceIte]

/-- A group makes prompts if and only if it has an option and no more than the limit. -/
theorem Group.units?_eq_ok_iff {group : Group} {settings : Settings} {units : List Text} :
    group.units? settings = .ok units ↔
      group.options ≠ [] ∧ (group.options.length : Int) ≤ settings.maxBracketOptions ∧
        units = group.options.map (group.unit settings.trimWhitespace) := by
  by_cases none : group.options = []
  · simp [units?_of_no_option settings none, none]
  · have some : ¬ group.options.isEmpty = true := by simpa using none
    rw [units?, if_neg some]
    by_cases exceeded : settings.maxBracketOptions < group.options.length
    · simp [exceeded, Int.not_le.mpr exceeded]
    · simp [exceeded, none, Int.not_lt.mp exceeded, eq_comm]

/-- A group that makes prompts makes at least one. -/
theorem Group.units?_ne_nil {group : Group} {settings : Settings} {units : List Text}
    (made : group.units? settings = .ok units) : units ≠ [] := by
  obtain ⟨present, _, rfl⟩ := units?_eq_ok_iff.mp made
  simpa using present

/-- The prompts of a text. A text without brackets is its own only prompt, and any fault leaves none. -/
def expand (settings : Settings) (text : Text) : List Text :=
  if text.any isBracket then
    match group? text with
    | .error _ => []
    | .ok group =>
      match group.units? settings with
      | .error _ => []
      | .ok units => units
  else [text]

end Bracket

namespace Selection

/-- What is said about a number of combinations. -/
def thresholdWarnings (settings : Settings) (total : Int) : List Warning :=
  if settings.dangerThreshold < total then [.danger total]
  else if settings.warnThreshold < total then [.many total]
  else []

/-- What is said about a number of combinations and of crossed names. -/
def warnings (settings : Settings) (total : Int) (names : Nat) : List Warning :=
  thresholdWarnings settings total ++ if 1 < names then [.crossed names] else []

/-- What refuses a combination before any unit is made: a name without an entry, or more selections
than are let pass. -/
def refusal? (settings : Settings) (entries : Text → List Text) (names : List Text) : Option Issue :=
  match unresolved entries names with
  | name :: missing => some (.missing (name :: missing))
  | [] =>
    let total := count (names.map fun name => (entries name).length)
    if settings.enforceThresholds && settings.dangerThreshold < (total : Int) then
      some (.tooManyCombinations total settings.dangerThreshold)
    else none

/-- The outcome of a text whose selections have been made into units. The selections were counted
apart from the units. -/
def outcome (settings : Settings) (text : Text) (entries : Text → List Text) (names made : List Text) :
    Outcome UnitKind :=
  let total := count (names.map fun name => (entries name).length)
  { isValid := true
    prompt := text
    units := made
    previewCount := min (made.length : Int) settings.maxPreview
    totalCount := total
    warnings := warnings settings total names.length
    names }

def combine (settings : Settings) (text : Text) (entries : Text → List Text) : Outcome UnitKind :=
  let names := Reference.names text
  if names.isEmpty then .accepted text [text] 1
  else match refusal? settings entries names with
    | some issue => .refused text [issue] none names
    | none => outcome settings text entries names (units text names entries)

theorem refusal?_of_resolved (settings : Settings) {entries : Text → List Text} {names : List Text}
    (resolved : unresolved entries names = []) :
    refusal? settings entries names =
      if settings.enforceThresholds = true ∧
          settings.dangerThreshold < (count (names.map fun name => (entries name).length) : Int) then
        some (.tooManyCombinations (count (names.map fun name => (entries name).length))
          settings.dangerThreshold)
      else none := by
  simp only [refusal?, resolved, Bool.and_eq_true, decide_eq_true_eq]

theorem resolved_of_refusal? {settings : Settings} {entries : Text → List Text} {names : List Text}
    (allowed : refusal? settings entries names = none) : unresolved entries names = [] := by
  simp only [refusal?] at allowed
  split at allowed
  · cases allowed
  · assumption

theorem combine_of_names (settings : Settings) {text : Text} (entries : Text → List Text)
    (referring : Reference.names text ≠ []) :
    combine settings text entries =
      match refusal? settings entries (Reference.names text) with
      | some issue => .refused text [issue] none (Reference.names text)
      | none => outcome settings text entries (Reference.names text)
          (units text (Reference.names text) entries) := by
  have present : (Reference.names text).isEmpty = false := by simpa using referring
  simp only [combine, present, Bool.false_eq_true, ↓reduceIte]

@[simp] theorem combine_prompt (settings : Settings) (text : Text) (entries : Text → List Text) :
    (combine settings text entries).prompt = text := by
  simp only [combine]
  split
  · rfl
  · split <;> rfl

end Selection

namespace UnitKind

def expand (settings : Settings) (catalog : Catalog) (kind : UnitKind) : Outcome UnitKind :=
  match kind with
  | .plain text => .accepted text [text] 1 (some kind)
  | .bracketed text group =>
    match group.units? settings with
    | .error issue => .refused text [issue] (some kind)
    | .ok units => .accepted text units (min (units.length : Int) settings.maxPreview) (some kind)
  | .wildcarded text names =>
    let resolution := Resolution.ofNames false catalog names
    if resolution.isComplete then
      (Selection.combine settings text resolution.entries).withKind (some kind)
    else .refused text [.missing resolution.missing] (some kind) names

@[simp] theorem expand_prompt (settings : Settings) (catalog : Catalog) (kind : UnitKind) :
    (kind.expand settings catalog).prompt = kind.text := by
  cases kind with
  | plain text => rfl
  | bracketed text group =>
      simp only [expand]
      split <;> rfl
  | wildcarded text names =>
      simp only [expand]
      split
      · exact Selection.combine_prompt settings text _
      · rfl

end UnitKind

end PromptTemplate
