import PromptTemplate.Catalog.Resolving
import PromptTemplate.Proofs.Catalog.Lookup
import PromptTemplate.Proofs.Catalog.Resolution

set_option autoImplicit false

namespace PromptTemplate.Resolution

variable (fallback : Bool) (catalog : Catalog)

namespace Resolving

/-- What is noted of a name: that it stands for itself. -/
def noted (name : Text) : List Event :=
  if fallback && (catalog.entries name).isEmpty then [.standsForItself name] else []

/-- One name is entered, and what there is to note is noted. -/
theorem run_next (name : Text) (progress : Progress) :
    (next fallback catalog name).run progress =
      ((), { resolution := enter fallback catalog progress.resolution name
             events := progress.events ++ noted fallback catalog name }) := by
  cases found : catalog.entries name with
  | cons entry entries =>
      simp only [next, found, resolve, enter, noted, List.isEmpty_cons, Bool.and_false, Bool.false_eq_true, if_false,
        List.append_nil]
      rfl
  | nil =>
      simp only [next, found, enter, noted, List.isEmpty_nil, Bool.and_true]
      cases fallback with
      | false =>
          simp only [Bool.false_eq_true, if_false, List.append_nil]
          rfl
      | true => rfl

theorem run_forM_next (names : List Text) (progress : Progress) :
    (names.forM (next fallback catalog)).run progress =
      ((), { resolution := names.foldl (enter fallback catalog) progress.resolution
             events := progress.events ++ names.flatMap (noted fallback catalog) }) := by
  induction names generalizing progress with
  | nil =>
      rw [List.flatMap_nil, List.append_nil]
      rfl
  | cons name names ih =>
      rw [List.forM, StateT.run_bind, run_next]
      refine (ih _).trans ?_
      rw [List.foldl_cons, List.flatMap_cons, List.append_assoc]

theorem flatMap_noted (names : List Text) :
    names.flatMap (noted fallback catalog) = (ofNames fallback catalog names).events fallback := by
  rw [events, missing_ofNames]
  cases fallback with
  | false => exact List.flatMap_eq_nil_iff.mpr fun _ _ => rfl
  | true =>
      induction names with
      | nil => rfl
      | cons name names ih =>
          rw [List.flatMap_cons, ih]
          cases found : (catalog.entries name).isEmpty <;> simp [noted, found]

end Resolving

theorem progress_eq (names : List Text) :
    progress fallback catalog names =
      { resolution := ofNames fallback catalog names
        events := (ofNames fallback catalog names).events fallback } := by
  rw [progress, Resolving.run_forM_next, List.nil_append, Resolving.flatMap_noted]
  rfl

theorem mem_missing_ofNames {names : List Text} {name : Text} :
    name ∈ (ofNames fallback catalog names).missing ↔ name ∈ names ∧ (catalog.entries name).isEmpty = true := by
  rw [missing_ofNames, List.mem_filter]

theorem mem_resolved_strict_iff {names : List Text} {name : Text} :
    name ∈ (ofNames false catalog names).resolved.map (·.1) ↔
      name ∈ names ∧ name ∉ (ofNames false catalog names).missing := by
  rw [mem_resolved_ofNames, mem_missing_ofNames]
  refine and_congr_right fun listed => ?_
  simp only [isEntered, Bool.false_or, Bool.not_eq_true', listed, true_and, Bool.not_eq_true]

theorem mem_resolved_legacy_iff {names : List Text} {name : Text} :
    name ∈ (ofNames true catalog names).resolved.map (·.1) ↔ name ∈ names := by
  rw [mem_resolved_ofNames]
  exact and_iff_left (Bool.true_or _)

theorem get?_resolved_of_missing {names : List Text} {name : Text} (listed : name ∈ names)
    (lacks : (catalog.entries name).isEmpty = true) :
    (ofNames true catalog names).resolved.get? name = some [name] := by
  rw [get?_resolved_ofNames, if_pos ⟨listed, Bool.true_or _⟩, standing, if_pos lacks]

theorem get?_resolved_of_found {names : List Text} {name : Text} (listed : name ∈ names)
    (found : ¬(catalog.entries name).isEmpty = true) :
    (ofNames fallback catalog names).resolved.get? name = some (catalog.entries name) := by
  rw [get?_resolved_ofNames, if_pos ⟨listed, by simp [isEntered, found]⟩, standing, if_neg found]

/-- Over a row of definitions or a map, the names whose first definition is absent or empty are missing with the
fallback as without it, each as often as it is listed. Without it the other names resolve, to the entries of their
first definition; with it these resolve to the same, and the missing ones to themselves. Only with it something is
noted, a warning for each missing name. -/
theorem fallback_hides_no_missing_name {source : Value} {definitions : Catalog}
    (held : UncheckedCatalog.Holds source definitions) (names : List Text) :
    ∃ table, UncheckedCatalog.ofValue? source = .ok { catalog := table } ∧
      let strict := progress false table names
      let legacy := progress true table names
      let missing := names.filter (Catalog.lacks definitions)
      strict.resolution.missing = missing ∧ legacy.resolution.missing = missing ∧
      strict.resolution.isComplete = missing.isEmpty ∧ legacy.resolution.isComplete = missing.isEmpty ∧
      (∀ name, name ∈ strict.resolution.resolved.map (·.1) ↔ name ∈ names ∧ name ∉ missing) ∧
      (∀ name, name ∈ legacy.resolution.resolved.map (·.1) ↔ name ∈ names) ∧
      (∀ name ∈ missing, legacy.resolution.resolved.get? name = some [name]) ∧
      (∀ name ∈ names, name ∉ missing →
        strict.resolution.resolved.get? name = some (definitions.entries name) ∧
        legacy.resolution.resolved.get? name = strict.resolution.resolved.get? name) ∧
      strict.events = [] ∧ legacy.events = missing.map .standsForItself ∧
      ∀ event ∈ legacy.events, event.severity = .warning := by
  refine ⟨definitions.distinct, held.ofValue?_eq, ?_⟩
  intro strict legacy missing
  have strictly : strict = _ := progress_eq false definitions.distinct names
  have legacily : legacy = _ := progress_eq true definitions.distinct names
  have gone : ∀ fallback, (ofNames fallback definitions.distinct names).missing = missing := by
    intro fallback
    rw [missing_ofNames, Catalog.filter_isEmpty_entries_distinct]
  have lacking : ∀ name, name ∈ missing ↔ name ∈ names ∧ (definitions.distinct.entries name).isEmpty = true := by
    intro name
    rw [← gone false, mem_missing_ofNames]
  rw [strictly, legacily]
  refine ⟨gone false, gone true, ?_, ?_, ?_, ?_, ?_, ?_, rfl, ?_, ?_⟩
  · exact congrArg List.isEmpty (gone false)
  · exact congrArg List.isEmpty (gone true)
  · intro name
    rw [← gone false]
    exact mem_resolved_strict_iff definitions.distinct
  · exact fun name => mem_resolved_legacy_iff definitions.distinct
  · intro name member
    obtain ⟨listed, lacks⟩ := (lacking name).mp member
    exact get?_resolved_of_missing definitions.distinct listed lacks
  · intro name listed present
    have found : ¬(definitions.distinct.entries name).isEmpty = true :=
      fun lacks => present ((lacking name).mpr ⟨listed, lacks⟩)
    have resolved := fun fallback => get?_resolved_of_found fallback definitions.distinct listed found
    rw [Catalog.entries_distinct] at resolved
    exact ⟨resolved false, (resolved true).trans (resolved false).symm⟩
  · exact congrArg (List.map Event.standsForItself) (gone true)
  · intro event member
    obtain ⟨name, _, rfl⟩ := List.mem_map.mp member
    rfl

/-- The first definition of a name counts even if it is empty, and a name that is listed twice is missing twice. -/
theorem fallback_over_empty_first_definition :
    let a := "a".toList
    let b := "b".toList
    let definitions : Catalog := [⟨a, []⟩, ⟨a, ["x".toList]⟩, ⟨b, ["y".toList]⟩]
    let strict := progress false definitions.distinct [a, b, a]
    let legacy := progress true definitions.distinct [a, b, a]
    UncheckedCatalog.ofValue? (.list (definitions.map .definition)) = .ok { catalog := definitions.distinct } ∧
      strict.resolution.missing = [a, a] ∧ legacy.resolution.missing = [a, a] ∧
      legacy.resolution.resolved.get? a = some [a] ∧ legacy.events = [.standsForItself a, .standsForItself a] := by
  intro a b definitions strict legacy
  have held : UncheckedCatalog.Holds (.list (definitions.map .definition)) definitions :=
    .row (fun _ same => nomatch same) rfl
  obtain ⟨table, entered, run⟩ := fallback_hides_no_missing_name held [a, b, a]
  obtain rfl : definitions.distinct = table :=
    congrArg UncheckedCatalog.catalog (Except.ok.inj (held.ofValue?_eq.symm.trans entered))
  obtain ⟨missing, same, _, _, _, _, itself, _, _, noted, _⟩ := run
  exact ⟨entered, missing, same, itself a (by decide), noted⟩

end PromptTemplate.Resolution
