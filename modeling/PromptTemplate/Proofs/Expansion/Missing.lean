import PromptTemplate.Expansion.Fallible
import PromptTemplate.Proofs.Expansion.Relevance
import PromptTemplate.Proofs.Expansion.Sources
import PromptTemplate.Proofs.Expansion.Wildcards

set_option autoImplicit false

namespace PromptTemplate

theorem Selection.unresolved_distinct (definitions : Catalog) (names : List Text) :
    unresolved definitions.distinct.entries names = names.filter (Catalog.lacks definitions) :=
  Catalog.filter_isEmpty_entries_distinct definitions names

theorem Resolution.unresolved_entries (catalog : Catalog) (names : List Text) :
    Selection.unresolved (ofNames false catalog names).entries names = (ofNames false catalog names).missing := by
  rw [missing_ofNames]
  apply List.filter_congr
  intro name member
  rw [entries_ofNames catalog member]

theorem Selection.kind_of_refusal?_of_resolved {settings : Settings} {entries : Text → List Text} {names : List Text}
    {issue : Issue} (resolved : unresolved entries names = [])
    (refused : refusal? settings entries names = some issue) : issue.kind = .overflow := by
  rw [refusal?_of_resolved settings resolved] at refused
  split at refused
  · cases refused
    rfl
  · cases refused

namespace UnitKind

variable (settings : Settings) (catalog : Catalog) {text : Text} (referring : Reference.names text ≠ [])

include referring

theorem names_expand_wildcarded :
    ((wildcarded text (Reference.names text)).expand settings catalog).names = Reference.names text := by
  rw [expand_wildcarded settings catalog referring]
  split <;> rfl

theorem expand_of_missing (missing : Selection.unresolved catalog.entries (Reference.names text) ≠ []) :
    (wildcarded text (Reference.names text)).expand settings catalog =
      .refused text [.missing (Selection.unresolved catalog.entries (Reference.names text))]
        (some (wildcarded text (Reference.names text))) (Reference.names text) := by
  rw [expand_wildcarded settings catalog referring, Selection.refusal?_of_unresolved settings missing]

theorem kind_of_mem_expand_of_resolved (resolved : Selection.unresolved catalog.entries (Reference.names text) = [])
    {issue : Issue} (member : issue ∈ ((wildcarded text (Reference.names text)).expand settings catalog).issues) :
    issue.kind = .overflow := by
  rw [expand_wildcarded settings catalog referring] at member
  split at member
  · next refused =>
      obtain rfl := List.mem_singleton.mp member
      exact Selection.kind_of_refusal?_of_resolved resolved refused
  · cases member

end UnitKind

/-- Missing wildcards are reported exactly. Over any value that is accepted as a catalog, the names of a text whose
first definition has no entries, or which have none, make the expansion of the text invalid and are named in one
diagnostic, each once and in the order in which the text refers to them. Without such names nothing is diagnosed as
unresolved: the entries that the names resolve to lack none of them, and neither the combining nor the making of
units is refused for a missing one. -/
theorem missing_wildcards_reported (settings : Settings) {source : Value} {catalog : Catalog}
    (accepted : Catalog.ofValue? source = .ok catalog) {text : Text} (unbarred : Chain.bar ∉ text)
    (referring : Reference.names text ≠ []) :
    ∃ definitions whole, Catalog.listed? source = .ok definitions ∧
      expandOver? settings source text = .ok whole ∧ expand? settings catalog text = .ok whole ∧
      let names := Reference.names text
      let missing := names.filter (Catalog.lacks definitions)
      let resolution := Resolution.ofNames false catalog names
      whole.names = names ∧ missing.Nodup ∧
      resolution.missing = missing ∧ Selection.unresolved resolution.entries names = missing ∧
      (missing ≠ [] → whole.isValid = false ∧ whole.units = [] ∧
        whole.diagnostics =
          [{ kind := .unresolved
             message := "Missing wild cards: " ++
              ", ".intercalate (missing.map fun name => String.ofList (Reference.token name))
             suggestion := some "Create these wild cards or remove them from the prompt" }]) ∧
      (missing = [] → (∀ diagnostic ∈ whole.diagnostics, diagnostic.kind ≠ .unresolved) ∧
        (∀ listed, Selection.refusal? settings resolution.entries names ≠ some (.missing listed)) ∧
        ∃ made, Selection.units? text names resolution.entries = .ok made) := by
  obtain ⟨definitions, held, rfl⟩ := Catalog.exists_listed_of_accepted accepted
  refine ⟨definitions, expand settings definitions.distinct text, held, by rw [expandOver?, accepted]; rfl,
    expand?_eq_ok settings _ text, ?_⟩
  intro names missing resolution
  have lacking : Selection.unresolved definitions.distinct.entries names = missing :=
    Selection.unresolved_distinct definitions names
  have unresolved : resolution.missing = missing :=
    (Resolution.missing_ofNames definitions.distinct false names).trans lacking
  have again : Selection.unresolved resolution.entries names = missing :=
    (Resolution.unresolved_entries definitions.distinct names).trans unresolved
  rw [expand_of_referring settings definitions.distinct unbarred referring]
  refine ⟨UnitKind.names_expand_wildcarded settings _ referring, (Reference.nodup_names text).filter _, unresolved,
    again, ?_, ?_⟩
  · intro present
    rw [UnitKind.expand_of_missing settings _ referring (lacking ▸ present)]
    refine ⟨rfl, rfl, ?_⟩
    rw [← lacking]
    rfl
  · intro none
    rw [none] at lacking again
    refine ⟨?_, ?_, ?_⟩
    · intro diagnostic member
      obtain ⟨issue, among, rfl⟩ := List.mem_map.mp member
      rw [Issue.kind_diagnostic, UnitKind.kind_of_mem_expand_of_resolved settings _ referring lacking among]
      decide
    · intro listed refused
      cases Selection.kind_of_refusal?_of_resolved again refused
    · exact ⟨_, Selection.units?_of_resolved text again⟩

/-- A name whose first definition is empty is missing though a later one is not, and is reported behind a name that is
not defined at all. A text without them is made. -/
theorem missing_wildcards_of_shadowed_name :
    let source := Value.list [.definition ⟨"a".toList, []⟩, .definition ⟨"b".toList, ["y".toList]⟩,
      .definition ⟨"a".toList, ["x".toList]⟩]
    let text := "_c_ and _a_ [_b_], _c_".toList
    (∃ whole, expandOver? {} source text = .ok whole ∧ whole.isValid = false ∧ whole.units = [] ∧
      whole.names = ["c".toList, "a".toList, "b".toList] ∧
      whole.diagnostics = [{ kind := .unresolved, message := "Missing wild cards: _c_, _a_"
                             suggestion := some "Create these wild cards or remove them from the prompt" }]) ∧
    ∃ whole, expandOver? {} source "_b_".toList = .ok whole ∧
      ∀ diagnostic ∈ whole.diagnostics, diagnostic.kind ≠ .unresolved := by
  intro source text
  let definitions : List Definition := [⟨"a".toList, []⟩, ⟨"b".toList, ["y".toList]⟩, ⟨"a".toList, ["x".toList]⟩]
  have row : IsRowOf definitions source := .list
  have accepted := row.catalog_ofValue?
  have listed : Catalog.listed? source = .ok definitions := Catalog.ofItems?_definitions definitions
  have names : Reference.names text = ["c".toList, "a".toList, "b".toList] := by
    simp only [text]
    cbv
  have single : Reference.names "_b_".toList = ["b".toList] := by cbv
  refine ⟨?_, ?_⟩
  · have unbarred : Chain.bar ∉ text := by decide
    have referring : Reference.names text ≠ [] := by
      rw [names]
      decide
    obtain ⟨held, whole, holds, made, _, named, _, _, _, reported, _⟩ :=
      missing_wildcards_reported {} accepted unbarred referring
    obtain rfl := Except.ok.inj (holds.symm.trans listed)
    have missing : (Reference.names text).filter (Catalog.lacks definitions) = ["c".toList, "a".toList] := by
      rw [names]
      decide
    rw [missing] at reported
    obtain ⟨invalid, units, diagnostics⟩ := reported (by decide)
    exact ⟨whole, made, invalid, units, named.trans names, diagnostics⟩
  · have unbarred : Chain.bar ∉ "_b_".toList := by decide
    have referring : Reference.names "_b_".toList ≠ [] := by
      rw [single]
      decide
    obtain ⟨held, whole, holds, made, _, _, _, _, _, _, resolved⟩ :=
      missing_wildcards_reported {} accepted unbarred referring
    obtain rfl := Except.ok.inj (holds.symm.trans listed)
    have missing : (Reference.names "_b_".toList).filter (Catalog.lacks definitions) = [] := by
      rw [single]
      decide
    exact ⟨whole, made, (resolved missing).1⟩

end PromptTemplate
