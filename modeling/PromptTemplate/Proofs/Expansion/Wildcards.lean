import PromptTemplate.Proofs.Catalog.Resolution
import PromptTemplate.Proofs.Selection.Enumeration

set_option autoImplicit false

namespace PromptTemplate

namespace Selection

section

variable {entries others : Text → List Text} {names : List Text}
  (agree : ∀ name ∈ names, entries name = others name)

include agree

theorem units_congr (text : Text) : units text names entries = units text names others := by
  rw [units, units, List.map_congr_left agree]

theorem lengths_congr : (names.map fun name => (entries name).length) = names.map fun name => (others name).length :=
  List.map_congr_left fun name member => by rw [agree name member]

theorem refusal?_congr (settings : Settings) : refusal? settings entries names = refusal? settings others names := by
  have missing : unresolved entries names = unresolved others names :=
    List.filter_congr fun name member => by rw [agree name member]
  simp only [refusal?, missing, lengths_congr agree]

theorem outcome_congr (settings : Settings) (text : Text) (made : List Text) :
    outcome settings text entries names made = outcome settings text others names made := by
  simp only [outcome, lengths_congr agree]

end

theorem refusal?_of_unresolved (settings : Settings) {entries : Text → List Text} {names : List Text}
    (missing : unresolved entries names ≠ []) :
    refusal? settings entries names = some (.missing (unresolved entries names)) := by
  simp only [refusal?]
  split
  · next found => rw [found]
  · next found => exact absurd found missing

structure Selects (entries : Text → List Text) (names : List Text) (picks : Text → Option Text) : Prop where
  mem_entries : ∀ name entry, picks name = some entry → entry ∈ entries name
  isSome_iff : ∀ name, (picks name).isSome = true ↔ name ∈ names

theorem selects_pick {entries : Text → List Text} {names chosen : List Text}
    (among : chosen ∈ product (names.map entries)) : Selects entries names (pick names chosen) := by
  induction names generalizing chosen with
  | nil =>
      have empty : ∀ name, pick [] chosen name = none := fun name => rfl
      exact ⟨by simp [empty], by simp [empty]⟩
  | cons name names ih =>
      obtain ⟨entry, present, later⟩ := List.mem_flatMap.mp among
      obtain ⟨rest, inside, rfl⟩ := List.mem_map.mp later
      have others := ih inside
      refine ⟨?_, ?_⟩
      · intro probe value picked
        -- A pick for a name that is repeated comes from the later names.
        rw [pick_cons, Option.or_eq_some_iff] at picked
        rcases picked with behind | ⟨_, first⟩
        · exact others.mem_entries probe value behind
        · split at first
          · next same =>
              cases first
              exact beq_iff_eq.mp same ▸ present
          · cases first
      · intro probe
        rw [pick_cons, Option.isSome_or, Bool.or_eq_true, others.isSome_iff, List.mem_cons, or_comm]
        apply or_congr_left
        by_cases same : probe = name
        · simp [same]
        · simp [same, Ne.symm same]

theorem exists_selects_of_mem_units {text : Text} {entries : Text → List Text} {names : List Text} {unit : Text}
    (referring : names ≠ []) (member : unit ∈ units text names entries) :
    ∃ picks, Selects entries names picks ∧ unit = Text.trim (Reference.substitute picks text) := by
  rw [units_of_names text entries referring] at member
  obtain ⟨chosen, among, rfl⟩ := List.mem_map.mp member
  exact ⟨pick names chosen, selects_pick among, rfl⟩

end Selection

namespace UnitKind

variable (settings : Settings) (catalog : Catalog)

/-- A wildcarded unit is refused or made by the entries that the catalog has for its names. -/
theorem expand_wildcarded {text : Text} (referring : Reference.names text ≠ []) :
    let names := Reference.names text
    let kind := wildcarded text names
    kind.expand settings catalog =
      match Selection.refusal? settings catalog.entries names with
      | some issue => .refused text [issue] (some kind) names
      | none => (Selection.outcome settings text catalog.entries names
          (Selection.units text names catalog.entries)).withKind (some kind) := by
  intro names kind
  have agree : ∀ name ∈ names, (Resolution.ofNames false catalog names).entries name = catalog.entries name :=
    fun name member => Resolution.entries_ofNames catalog member
  have missing : (Resolution.ofNames false catalog names).missing = Selection.unresolved catalog.entries names :=
    Resolution.missing_ofNames catalog false names
  by_cases complete : (Resolution.ofNames false catalog names).isComplete = true
  · simp only [kind, expand, complete, ↓reduceIte]
    rw [Selection.combine_of_names settings _ referring, Selection.refusal?_congr agree,
      Selection.units_congr agree, Selection.outcome_congr agree]
    cases Selection.refusal? settings catalog.entries names <;> rfl
  · have unresolved : Selection.unresolved catalog.entries names ≠ [] := by
      rw [← missing]
      simpa [Resolution.isComplete] using complete
    simp only [kind, expand, complete, Bool.false_eq_true, ↓reduceIte]
    rw [Selection.refusal?_of_unresolved settings unresolved, missing]

variable {settings catalog}

theorem units_of_wildcarded {text : Text} (referring : Reference.names text ≠ [])
    (valid : ((wildcarded text (Reference.names text)).expand settings catalog).isValid = true) :
    ((wildcarded text (Reference.names text)).expand settings catalog).units =
      Selection.units text (Reference.names text) catalog.entries := by
  rw [expand_wildcarded settings catalog referring] at valid ⊢
  split at valid
  · cases valid
  · rfl

theorem exists_selects_of_mem_expand {text unit : Text} (referring : Reference.names text ≠ [])
    (member : unit ∈ ((wildcarded text (Reference.names text)).expand settings catalog).units) :
    ∃ picks, Selection.Selects catalog.entries (Reference.names text) picks ∧
      unit = Text.trim (Reference.substitute picks text) := by
  rw [expand_wildcarded settings catalog referring] at member
  split at member
  · cases member
  · exact Selection.exists_selects_of_mem_units referring member

end UnitKind

end PromptTemplate
