import PromptTemplate.Proofs.Expansion.Lookup
import PromptTemplate.Proofs.Expansion.Sources

set_option autoImplicit false

namespace PromptTemplate

/-- What a map may hold under a name: nothing, a block of lines, or texts. -/
inductive EntrySource where
  | nothing
  | lines (content : Text)
  | texts (entries : List Text)

namespace EntrySource

/-- The value that a map holds. -/
def value : EntrySource → Value
  | .nothing => .null
  | .lines content => .text content
  | .texts entries => .list (entries.map .text)

/-- The entries as they are written. -/
def entries : EntrySource → List Text
  | .nothing => []
  | .lines content => Text.contentLines content
  | .texts entries => entries

theorem catalog_definition? (source : EntrySource) (name : Text) :
    Catalog.definition? name source.value = .ok ⟨name, Text.tidied source.entries⟩ := by
  cases source with
  | nothing => rfl
  | lines content =>
      rw [entries, Text.tidied_contentLines]
      rfl
  | texts entries =>
      have words : (entries.map Value.text).map Value.plain = entries := by
        rw [List.map_map]
        exact List.map_id entries
      simp only [value, Catalog.definition?, Value.items?, Catalog.entryTexts, words]
      rfl

theorem unchecked_entries? (source : EntrySource) :
    UncheckedCatalog.entries? source.value = .ok (source.entries.map .text) := by
  cases source with
  | nothing => rfl
  | lines content => rfl
  | texts entries => cases entries <;> rfl

end EntrySource

/-- A map from names to entries, in the order of its keys. -/
abbrev Mapping := List (Value × EntrySource)

/-- The definition with its entries trimmed, without the blank ones. -/
def Definition.tidied (definition : Definition) : Definition :=
  ⟨definition.name, Text.tidied definition.entries⟩

theorem Catalog.entries_map_tidied (catalog : Catalog) (name : Text) :
    Catalog.entries (catalog.map Definition.tidied) name = Text.tidied (catalog.entries name) := by
  induction catalog with
  | nil => rfl
  | cons definition rest ih =>
      rw [List.map_cons, entries_cons, entries_cons, ih]
      exact (apply_ite Text.tidied _ _ _).symm

namespace Mapping

/-- The map as a value. -/
def value (mapping : Mapping) : Value :=
  .map (mapping.map fun pair => (pair.1, pair.2.value))

/-- The definitions of a map with the entries as they are written. -/
def definitions (mapping : Mapping) : Catalog :=
  mapping.map fun pair => ⟨pair.1.plain, pair.2.entries⟩

variable (mapping : Mapping)

theorem catalog_ofValue? :
    Catalog.ofValue? mapping.value = .ok (Catalog.distinct (mapping.definitions.map .tidied)) := by
  have each : Catalog.ofPairs? (mapping.map fun pair => (pair.1, pair.2.value)) =
      .ok (mapping.definitions.map .tidied) := by
    induction mapping with
    | nil => rfl
    | cons pair rest ih =>
        rw [List.map_cons, Catalog.ofPairs?, ih, EntrySource.catalog_definition?]
        rfl
  rw [value, Catalog.ofValue?, each]
  rfl

theorem holds : UncheckedCatalog.Holds mapping.value mapping.definitions := by
  refine .map ?_
  rw [definitions, List.forall₂_map_left_iff, List.forall₂_map_right_iff, List.forall₂_same]
  exact fun pair _ => ⟨rfl, pair.2.unchecked_entries?⟩

theorem unchecked_ofValue? :
    UncheckedCatalog.ofValue? mapping.value = .ok { catalog := mapping.definitions.distinct } :=
  mapping.holds.ofValue?_eq

variable (settings : Settings) (text : Text)

/-- A prompt is expanded over the entries trimmed and without the blank ones. -/
theorem expandOver?_eq : expandOver? settings mapping.value text =
    .ok (expand settings (mapping.definitions.map .tidied) text) := by
  rw [expandOver?, catalog_ofValue?]
  apply congrArg Except.ok
  exact expand_congr settings fun name _ => Catalog.entries_distinct _ name

theorem expandChainOver?_eq : expandChainOver? settings mapping.value text =
    .ok (expand settings mapping.definitions text) := by
  rw [expandChainOver?, UncheckedCatalog.expansion?_of_writable mapping.unchecked_ofValue?,
    expandChain_eq_expand]
  apply congrArg Except.ok
  exact expand_congr settings fun name _ => Catalog.entries_distinct _ name

end Mapping

/-! ### A prompt that shows the entries of a name -/

/-- A reference between two full stops. Units are trimmed, so that without the stops the blank characters at
the ends of an entry would not be seen. -/
def showing (name : Text) : Text :=
  '.' :: Reference.token name ++ ['.']

section

variable {name : Text} (named : Reference.IsName name)

include named

theorem pieces_showing :
    Reference.pieces (showing name) = [.literal '.', .reference name, .literal '.'] := by
  rw [showing, List.cons_append, Reference.pieces_cons_of_ne (by decide),
    Reference.pieces_append_cons (by decide), Reference.pieces_token named, Reference.pieces_nil]
  rfl

theorem names_showing : Reference.names (showing name) = [name] := by
  have found : Reference.occurrences (showing name) = [name] := by
    rw [Reference.occurrences, pieces_showing named]
    rfl
  rw [Reference.names, found]
  simp [List.eraseDups_cons]

theorem bar_not_mem_showing : Chain.bar ∉ showing name := by
  have inside : Chain.bar ∉ name := fun member => absurd (named.word Chain.bar member) (by decide)
  simpa [showing, Reference.token, Chain.bar] using inside

/-- An entry is shown as it is, whatever blank characters it has at its ends. -/
theorem unit_showing (entry : Text) :
    Selection.unit (showing name) [name] [entry] = '.' :: entry ++ ['.'] := by
  have written : Reference.substitute (Selection.pick [name] [entry]) (showing name) =
      '.' :: entry ++ ['.'] := by
    simp [Reference.substitute, pieces_showing named, Reference.fill, Selection.pick]
  rw [Selection.unit, written, Text.trim, List.cons_append, Text.trimStart_cons (by decide),
    ← List.cons_append, Text.trimEnd_concat (by decide)]

theorem units_combine_showing {entries : Text → List Text} (present : entries name ≠ []) :
    (Selection.combine {} (showing name) entries).units =
      (entries name).map fun entry => '.' :: entry ++ ['.'] := by
  have names := names_showing named
  have referring : Reference.names (showing name) ≠ [] := by simp [names]
  have resolved : Selection.unresolved entries [name] = [] := by
    simpa [Selection.unresolved_eq_nil] using present
  have allowed : Selection.refusal? {} entries [name] = none := by
    rw [Selection.refusal?_of_resolved {} resolved]
    rfl
  have product : Selection.product [entries name] = (entries name).map ([·]) := by
    simp [Selection.product, List.map_eq_flatMap]
  rw [Selection.combine_of_names {} entries referring, names, allowed]
  change Selection.units (showing name) [name] entries = _
  rw [Selection.units_of_names _ entries (List.cons_ne_nil name []), List.map_singleton, product,
    List.map_map]
  exact List.map_congr_left fun entry _ => unit_showing named entry

theorem units_expand_showing (catalog : Catalog) :
    (expand {} catalog (showing name)).units =
      (catalog.entries name).map fun entry => '.' :: entry ++ ['.'] := by
  have names := names_showing named
  have read : UnitKind.ofText? (showing name) = .ok (.wildcarded (showing name) [name]) :=
    UnitKind.ofText?_eq_wildcarded_iff.mpr ⟨by simp [names], rfl, names.symm⟩
  rw [expand_of_unit {} catalog (bar_not_mem_showing named) read]
  change (UnitKind.expand {} catalog (.wildcarded (showing name) [name])).units = _
  cases found : catalog.entries name with
  | nil =>
      -- The name is missing, and a refused prompt has no units.
      simp [UnitKind.expand, Resolution.ofNames, Resolution.enter, found, Resolution.isComplete,
        Outcome.refused]
  | cons entry rest =>
      have resolution : Resolution.ofNames false catalog [name] =
          { resolved := [(name, entry :: rest)] } := by
        simp [Resolution.ofNames, Resolution.enter, found, Assoc.insert, Assoc.insertBy]
      have looked : Resolution.entries { resolved := [(name, entry :: rest)] } name = entry :: rest := by
        simp [Resolution.entries, Assoc.get?_cons]
      have shown := units_combine_showing named (looked ▸ List.cons_ne_nil entry rest)
      rw [looked] at shown
      simpa [UnitKind.expand, resolution, Resolution.isComplete, Outcome.withKind] using shown

end

namespace Mapping

/-- Whether a prompt and a chain are expanded alike over a map. -/
def Agrees (mapping : Mapping) (settings : Settings) (text : Text) : Prop :=
  ∃ whole, expandOver? settings mapping.value text = .ok whole ∧
    expandChainOver? settings mapping.value text = .ok whole

theorem agrees_iff (mapping : Mapping) (settings : Settings) (text : Text) :
    mapping.Agrees settings text ↔
      expand settings (mapping.definitions.map .tidied) text =
        expand settings mapping.definitions text := by
  simp only [Agrees, expandOver?_eq, expandChainOver?_eq, Except.ok.injEq]
  constructor
  · rintro ⟨whole, checked, standing⟩
    exact checked.trans standing.symm
  · intro same
    exact ⟨_, same, rfl⟩

theorem agrees_of_tidy (mapping : Mapping) (settings : Settings) {text : Text}
    (tidy : ∀ name ∈ Reference.names text, ∀ entry ∈ mapping.definitions.entries name,
      Text.IsTidy entry) : mapping.Agrees settings text := by
  rw [agrees_iff]
  apply expand_congr
  intro name member
  rw [Catalog.entries_map_tidied, Text.tidied_eq_self_iff.mpr (tidy name member)]

theorem tidy_of_agrees {mapping : Mapping} {name : Text} (named : Reference.IsName name)
    (agrees : mapping.Agrees {} (showing name)) :
    ∀ entry ∈ mapping.definitions.entries name, Text.IsTidy entry := by
  have units := congrArg (·.units) ((agrees_iff mapping {} (showing name)).mp agrees)
  simp only [units_expand_showing named, Catalog.entries_map_tidied] at units
  apply Text.tidied_eq_self_iff.mp
  apply List.map_injective_iff.mpr _ units
  intro entry other same
  simpa using same

end Mapping

/-- The expansions of a prompt and of a chain over a map of names. Both are always made: that of a prompt over
the entries trimmed and without blank ones, that of a chain over the texts as they are written. So they
agree on a text if the written entries of its names are tidy, and they agree on every text if and only if
every entry that can be referred to is tidy. -/
theorem mapping_expansions_agree_iff_tidy (mapping : Mapping) :
    (∀ settings text,
      expandOver? settings mapping.value text =
        .ok (expand settings (mapping.definitions.map .tidied) text) ∧
      expandChainOver? settings mapping.value text = .ok (expand settings mapping.definitions text)) ∧
    (∀ settings text, (∀ name ∈ Reference.names text, ∀ entry ∈ mapping.definitions.entries name,
      Text.IsTidy entry) → mapping.Agrees settings text) ∧
    ((∀ settings text, mapping.Agrees settings text) ↔
      ∀ name, Reference.IsName name → ∀ entry ∈ mapping.definitions.entries name,
        Text.IsTidy entry) := by
  refine ⟨?_, ?_, ?_, ?_⟩
  · intro settings text
    exact ⟨mapping.expandOver?_eq settings text, mapping.expandChainOver?_eq settings text⟩
  · intro settings text tidy
    exact mapping.agrees_of_tidy settings tidy
  · intro agrees name named
    exact Mapping.tidy_of_agrees named (agrees {} (showing name))
  · intro tidy settings text
    apply mapping.agrees_of_tidy settings
    intro name member
    exact tidy name (Reference.isName_of_mem_names member)

/-- An entry with blanks at its ends does not matter to a text that refers to another name. -/
theorem mapping_expansions_agree_beside_untidy :
    let mapping : Mapping :=
      [(.text "hero".toList, .texts ["Ann".toList]), (.text "place".toList, .texts [" sea ".toList])]
    mapping.Agrees {} "_hero_ waves".toList ∧ ¬ ∀ settings text, mapping.Agrees settings text := by
  intro mapping
  obtain ⟨_, agree, every⟩ := mapping_expansions_agree_iff_tidy mapping
  have names : Reference.names "_hero_ waves".toList = ["hero".toList] := by cbv
  refine ⟨agree {} _ ?_, ?_⟩
  · have entries : mapping.definitions.entries "hero".toList = ["Ann".toList] := by
      simp only [mapping]
      cbv
    rw [names]
    intro name member
    obtain rfl := List.mem_singleton.mp member
    rw [entries]
    intro entry among
    obtain rfl := List.mem_singleton.mp among
    exact ⟨by decide, by decide⟩
  · rw [every]
    intro tidy
    have word : Reference.IsName "place".toList := ⟨by decide, List.all_eq_true.mp (by decide)⟩
    have entries : mapping.definitions.entries "place".toList = [" sea ".toList] := by
      simp only [mapping]
      cbv
    have untidy := tidy _ word " sea ".toList (entries ▸ List.mem_singleton_self _)
    exact absurd untidy.trimmed (by decide)

/-- A name with a blank entry only is missing from a prompt, and written into a chain as nothing. -/
theorem mapping_expansions_differ_over_blank_entry :
    let mapping : Mapping := [(.text "a".toList, .texts ["  ".toList])]
    let text := "_a_".toList
    ¬ mapping.Agrees {} text ∧
      (∃ whole, expandOver? {} mapping.value text = .ok whole ∧ whole.isValid = false ∧
        whole.issues = [.missing ["a".toList]]) ∧
      ∃ whole, expandChainOver? {} mapping.value text = .ok whole ∧ whole.isValid = true ∧
        whole.units = [[]] := by
  intro mapping text
  have checked : (expand {} (mapping.definitions.map .tidied) text).isValid = false ∧
      (expand {} (mapping.definitions.map .tidied) text).issues = [.missing ["a".toList]] := by
    simp only [mapping, text]
    cbv
  have standing : (expand {} mapping.definitions text).isValid = true ∧
      (expand {} mapping.definitions text).units = [[]] := by
    simp only [mapping, text]
    cbv
  refine ⟨?_, ⟨_, mapping.expandOver?_eq {} text, checked⟩, _, mapping.expandChainOver?_eq {} text,
    standing⟩
  rw [Mapping.agrees_iff]
  intro same
  rw [same, standing.1] at checked
  cases checked.1

end PromptTemplate
