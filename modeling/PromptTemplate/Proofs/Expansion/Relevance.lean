import Mathlib
import PromptTemplate.Expansion.Expand
import PromptTemplate.Proofs.Catalog.Lookup
import PromptTemplate.Proofs.Expansion.Lookup

set_option autoImplicit false

namespace PromptTemplate

namespace Catalog

/-- The definitions that a value holds, those of a name that was defined before among them. -/
def listed? : Value → Except Fault Catalog
  | .null => .ok []
  | .map pairs => ofPairs? pairs
  | value =>
    match value.items? with
    | some items => ofItems? items
    | none => .error .notIterable

theorem ofValue?_eq_listed? (source : Value) : ofValue? source = (listed? source).map distinct := by
  cases source <;> rfl

/-- A value that is accepted holds definitions, of which the first ones are kept. -/
theorem exists_listed_of_accepted {source : Value} {catalog : Catalog}
    (accepted : ofValue? source = .ok catalog) :
    ∃ definitions, listed? source = .ok definitions ∧ catalog = definitions.distinct := by
  rw [ofValue?_eq_listed?] at accepted
  cases held : listed? source with
  | error fault =>
      rw [held] at accepted
      cases accepted
  | ok definitions =>
      rw [held] at accepted
      cases accepted
      exact ⟨definitions, rfl, rfl⟩

theorem entries_append (before after : Catalog) (name : Text) :
    entries (before ++ after) name =
      if name ∈ before.map (·.name) then entries before name else entries after name := by
  induction before with
  | nil => simp
  | cons definition before ih =>
      rw [List.cons_append, entries_cons, entries_cons, ih, List.map_cons]
      by_cases same : definition.name = name
      · simp [same]
      · simp [same, Ne.symm same]

theorem entries_of_not_mem {catalog : Catalog} {name : Text} (absent : name ∉ catalog.map (·.name)) :
    catalog.entries name = [] := by
  have whole := entries_append catalog [] name
  rw [List.append_nil, if_neg absent] at whole
  exact whole

/-- If no name is defined twice, every definition is the first of its name. -/
theorem entries_of_mem {catalog : Catalog} (nodup : (catalog.map (·.name)).Nodup) {definition : Definition}
    (member : definition ∈ catalog) : catalog.entries definition.name = definition.entries := by
  obtain ⟨before, after, rfl⟩ := List.append_of_mem member
  rw [List.map_append, List.map_cons] at nodup
  have fresh : definition.name ∉ before.map (·.name) := fun early =>
    (List.nodup_append.mp nodup).2.2 _ early _ List.mem_cons_self rfl
  rw [entries_append, if_neg fresh, entries_cons, if_pos rfl]

/-- Only the definitions of some names matter for these names. -/
theorem entries_filter {names : List Text} {name : Text} (member : name ∈ names) (catalog : Catalog) :
    entries (catalog.filter (·.name ∈ names)) name = entries catalog name := by
  induction catalog with
  | nil => rfl
  | cons definition rest ih =>
      rw [entries_cons]
      by_cases kept : definition.name ∈ names
      · rw [List.filter_cons_of_pos (by simpa using kept), entries_cons, ih]
      · have other : definition.name ≠ name := by
          rintro rfl
          exact kept member
        rw [List.filter_cons_of_neg (by simpa using kept), ih, if_neg other]

/-- A change to a catalog that nobody notices who looks up certain names only. -/
inductive Change (names : List Text) : Catalog → Catalog → Prop
  /-- Definitions of other names are added, removed, edited or moved. -/
  | elsewhere {catalog other : Catalog}
      (same : catalog.filter (·.name ∈ names) = other.filter (·.name ∈ names)) : Change names catalog other
  /-- A name gets another definition behind the first. -/
  | repeated {before after : Catalog} {definition : Definition}
      (known : definition.name ∈ before.map (·.name)) :
      Change names (before ++ after) (before ++ definition :: after)
  /-- A name without a definition gets an empty one. -/
  | vacant {before after : Catalog} {name : Text} (unknown : name ∉ (before ++ after).map (·.name)) :
      Change names (before ++ after) (before ++ ⟨name, []⟩ :: after)
  /-- Definitions whose names differ are put in another order. -/
  | permuted {catalog other : Catalog} (nodup : (catalog.map (·.name)).Nodup) (order : catalog.Perm other) :
      Change names catalog other

theorem entries_repeated {before after : Catalog} {definition : Definition}
    (known : definition.name ∈ before.map (·.name)) (name : Text) :
    entries (before ++ after) name = entries (before ++ definition :: after) name := by
  rw [entries_append, entries_append]
  by_cases early : name ∈ before.map (·.name)
  · rw [if_pos early, if_pos early]
  · have other : definition.name ≠ name := by
      rintro rfl
      exact early known
    rw [if_neg early, if_neg early, entries_cons, if_neg other]

theorem entries_vacant {before after : Catalog} {name : Text}
    (unknown : name ∉ (before ++ after).map (·.name)) (looked : Text) :
    entries (before ++ after) looked = entries (before ++ ⟨name, []⟩ :: after) looked := by
  by_cases same : name = looked
  · subst same
    have late : name ∉ before.map (·.name) := fun early => unknown (by simp_all)
    rw [entries_of_not_mem unknown, entries_append, if_neg late, entries_cons, if_pos rfl]
  · rw [entries_append, entries_append, entries_cons, if_neg same]

theorem entries_permuted {catalog other : Catalog} (nodup : (catalog.map (·.name)).Nodup)
    (order : catalog.Perm other) (name : Text) : catalog.entries name = other.entries name := by
  by_cases known : name ∈ catalog.map (·.name)
  · obtain ⟨definition, member, rfl⟩ := List.mem_map.mp known
    have others : (other.map (·.name)).Nodup := (order.map _).nodup nodup
    rw [entries_of_mem nodup member, entries_of_mem others (order.mem_iff.mp member)]
  · have unknown : name ∉ other.map (·.name) := fun member => known ((order.map _).mem_iff.mpr member)
    rw [entries_of_not_mem known, entries_of_not_mem unknown]

theorem Change.agreeOn {names : List Text} {catalog other : Catalog} (change : Change names catalog other) :
    AgreeOn names catalog other := by
  intro name member
  cases change with
  | elsewhere same => rw [← entries_filter member catalog, same, entries_filter member other]
  | repeated known => exact entries_repeated known name
  | vacant unknown => exact entries_vacant unknown name
  | permuted nodup order => exact entries_permuted nodup order name

theorem agreeOn_of_changes {names : List Text} {catalog other : Catalog}
    (changes : Relation.ReflTransGen (Change names) catalog other) : AgreeOn names catalog other := by
  induction changes with
  | refl => exact fun _ _ => rfl
  | tail _ change ih => exact fun name member => (ih name member).trans (change.agreeOn name member)

end Catalog

/-- The definitions that are left when later ones are left out are as good as all. -/
theorem expandOver?_of_listed (settings : Settings) {source : Value} {definitions : Catalog}
    (held : Catalog.listed? source = .ok definitions) (prompt : Text) :
    expandOver? settings source prompt = .ok (expand settings definitions prompt) := by
  rw [expandOver?, Catalog.ofValue?_eq_listed?, held]
  apply congrArg Except.ok
  exact expand_congr settings fun name _ => Catalog.entries_distinct definitions name

/-- A prompt has one expansion over two values that stand for catalogs. -/
def ExpandsAlike (settings : Settings) (prompt : Text) (source other : Value) : Prop :=
  ∃ whole, expandOver? settings source prompt = .ok whole ∧ expandOver? settings other prompt = .ok whole

/-- Only the names that a prompt refers to matter. Over any two values that are accepted as catalogs a prompt
is expanded alike if the first definitions of each of its names have the same entries, where no definition is
as good as an empty one; and so if one catalog comes from the other by changes that do not concern them. -/
theorem expansions_agree_over_referenced (settings : Settings) (prompt : Text) {source other : Value}
    {catalog rest : Catalog} (accepted : Catalog.ofValue? source = .ok catalog)
    (admitted : Catalog.ofValue? other = .ok rest) :
    ∃ definitions others,
      Catalog.listed? source = .ok definitions ∧ catalog = definitions.distinct ∧
      Catalog.listed? other = .ok others ∧ rest = others.distinct ∧
      (Catalog.AgreeOn (Reference.names prompt) definitions others →
        ExpandsAlike settings prompt source other) ∧
      (Relation.ReflTransGen (Catalog.Change (Reference.names prompt)) definitions others →
        ExpandsAlike settings prompt source other) := by
  obtain ⟨definitions, held, first⟩ := Catalog.exists_listed_of_accepted accepted
  obtain ⟨others, kept, second⟩ := Catalog.exists_listed_of_accepted admitted
  have alike : Catalog.AgreeOn (Reference.names prompt) definitions others →
      ExpandsAlike settings prompt source other := by
    intro agree
    refine ⟨_, expandOver?_of_listed settings held prompt, ?_⟩
    rw [expandOver?_of_listed settings kept prompt, expand_congr settings agree]
  exact ⟨definitions, others, held, first, kept, second, alike,
    fun changes => alike (Catalog.agreeOn_of_changes changes)⟩

/-- A map and a list with another place beside the one name of the prompt, and with a second hero. -/
theorem expansions_agree_over_edited_catalog :
    let hero : Definition := ⟨"hero".toList, ["Ann".toList, "Bo".toList]⟩
    let mood : Definition := ⟨"mood".toList, ["calm".toList]⟩
    let second : Definition := ⟨"hero".toList, ["Cy".toList]⟩
    let source := Value.map [(.text "hero".toList, .list [.text "Ann".toList, .text " Bo".toList]),
      (.text "place".toList, .text "sea".toList)]
    let other := Value.list [.definition mood, .definition hero, .definition second]
    let prompt := "_hero_ waves | end".toList
    Catalog.ofValue? source = .ok [hero, ⟨"place".toList, ["sea".toList]⟩] ∧
      Catalog.ofValue? other = .ok [mood, hero] ∧ ExpandsAlike {} prompt source other := by
  intro hero mood second source other prompt
  have accepted : Catalog.ofValue? source = .ok [hero, ⟨"place".toList, ["sea".toList]⟩] := by
    simp only [source, hero, Catalog.ofValue?, Catalog.ofPairs?, Catalog.definition?, Catalog.entryTexts, Value.items?,
      Value.plain]
    rfl
  have admitted : Catalog.ofValue? other = .ok [mood, hero] := by
    simp only [other, hero, mood, second]
    cbv
  obtain ⟨definitions, others, held, _, kept, _, _, alike⟩ :=
    expansions_agree_over_referenced {} prompt accepted admitted
  have first : Catalog.listed? source = .ok [hero, ⟨"place".toList, ["sea".toList]⟩] := by
    simp only [source, hero, Catalog.listed?, Catalog.ofPairs?, Catalog.definition?, Catalog.entryTexts, Value.items?,
      Value.plain]
    rfl
  have last : Catalog.listed? other = .ok ([mood, hero] ++ [second]) := rfl
  obtain rfl := Except.ok.inj (held.symm.trans first)
  obtain rfl := Except.ok.inj (kept.symm.trans last)
  have names : Reference.names prompt = ["hero".toList] := by
    simp only [prompt]
    cbv
  refine ⟨accepted, admitted, alike ?_⟩
  rw [names]
  have elsewhere : Catalog.Change ["hero".toList] [hero, ⟨"place".toList, ["sea".toList]⟩] ([mood, hero] ++ []) :=
    .elsewhere (by decide)
  have repeated : Catalog.Change ["hero".toList] ([mood, hero] ++ []) ([mood, hero] ++ second :: []) :=
    .repeated (by decide)
  exact .tail (.single elsewhere) repeated

end PromptTemplate
