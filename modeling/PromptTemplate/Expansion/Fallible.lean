import PromptTemplate.Expansion.Expand

set_option autoImplicit false

namespace PromptTemplate

def Selection.combine? (settings : Settings) (text : Text) (entries : Text → List Text) :
    Except Issue (Outcome UnitKind) :=
  let names := Reference.names text
  if names.isEmpty then .ok (.accepted text [text] 1)
  else match refusal? settings entries names with
    | some issue => .ok (.refused text [issue] none names)
    | none => (units? text names entries).map (outcome settings text entries names)

/-- The expansion of a unit. What is wrong with a bracket group or with a name that is looked up is part
of the outcome. -/
def UnitKind.expand? (settings : Settings) (catalog : Catalog) (kind : UnitKind) :
    Except Issue (Outcome UnitKind) :=
  match kind with
  | .plain _ | .bracketed _ _ => .ok (kind.expand settings catalog)
  | .wildcarded text names =>
    let resolution := Resolution.ofNames false catalog names
    if resolution.isComplete then
      (Selection.combine? settings text resolution.entries).map (·.withKind (some kind))
    else .ok (.refused text [.missing resolution.missing] (some kind) names)

namespace Chain

/-- The steps of a chain up to the first one that fails. -/
def expandSteps? (settings : Settings) (catalog : Catalog) (position : Nat) :
    List UnitKind → Except Issue (List Step)
  | [] => .ok []
  | kind :: rest =>
    match kind.expand? settings catalog with
    | .error issue => .error issue
    | .ok outcome =>
      (expandSteps? settings catalog (position + 1) rest).map (⟨kind.text, position, outcome⟩ :: ·)

/-- The expansion of a chain whose steps have been read. -/
def expand? (settings : Settings) (catalog : Catalog) (text : Text) (kinds : List UnitKind) :
    Except Issue Expansion :=
  (expandSteps? settings catalog 1 kinds).map (ofSteps settings text kinds)

end Chain

def Kind.expand? (settings : Settings) (catalog : Catalog) : Kind → Except Issue Expansion
  | .single unit => (unit.expand? settings catalog).map .ofUnit
  | .chain text steps => Chain.expand? settings catalog text steps

/-- The expansion of a prompt. Only a failure to read the prompt becomes an outcome here. -/
def expand? (settings : Settings) (catalog : Catalog) (prompt : Text) : Except Issue Expansion :=
  match Kind.ofText? settings.maxPipelineSteps prompt with
  | .error issue => .ok (.unread prompt issue)
  | .ok kind => kind.expand? settings catalog

/-- Combining makes units only for names that have entries, so the making does not fail. -/
theorem Selection.combine?_eq_ok (settings : Settings) (text : Text) (entries : Text → List Text) :
    combine? settings text entries = .ok (combine settings text entries) := by
  simp only [combine?, combine]
  split
  · rfl
  · cases allowed : refusal? settings entries (Reference.names text) with
    | some issue => rfl
    | none =>
        simp only [units?_of_resolved text (resolved_of_refusal? allowed)]
        rfl

theorem UnitKind.expand?_eq_ok (settings : Settings) (catalog : Catalog) (kind : UnitKind) :
    kind.expand? settings catalog = .ok (kind.expand settings catalog) := by
  cases kind with
  | plain text => rfl
  | bracketed text group => rfl
  | wildcarded text names =>
      simp only [expand?, expand, Selection.combine?_eq_ok]
      split <;> rfl

theorem Chain.expandSteps?_eq_ok (settings : Settings) (catalog : Catalog) (position : Nat)
    (kinds : List UnitKind) :
    expandSteps? settings catalog position kinds =
      .ok (expandSteps settings catalog position kinds) := by
  induction kinds generalizing position with
  | nil => rfl
  | cons kind rest ih =>
      simp only [expandSteps?, UnitKind.expand?_eq_ok, ih, expandSteps]
      rfl

theorem expand?_eq_ok (settings : Settings) (catalog : Catalog) (prompt : Text) :
    expand? settings catalog prompt = .ok (expand settings catalog prompt) := by
  simp only [expand?, expand]
  cases Kind.ofText? settings.maxPipelineSteps prompt with
  | error issue => rfl
  | ok kind =>
      cases kind with
      | single unit => simp only [Kind.expand?, UnitKind.expand?_eq_ok, Kind.expand]; rfl
      | chain text steps =>
          simp only [Kind.expand?, Chain.expand?, Chain.expandSteps?_eq_ok, Kind.expand]
          rfl

end PromptTemplate
