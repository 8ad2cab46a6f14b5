import PromptTemplate.Proofs.Cost.Billing
import PromptTemplate.Proofs.Expansion.Limits
import PromptTemplate.Proofs.Expansion.Lookup
import PromptTemplate.Proofs.Expansion.Parts
import PromptTemplate.Proofs.Expansion.Wildcards
import PromptTemplate.Proofs.Reference.Substitution

set_option autoImplicit false

namespace PromptTemplate

/-- The first entry of the first definition of a name. -/
def Catalog.firstEntry? (catalog : Catalog) (name : Text) : Option Text :=
  (catalog.entries name).head?

namespace Selection

theorem digits_zero (sizes : List Nat) : digits sizes 0 = sizes.map fun _ => 0 := by
  induction sizes with
  | nil => rfl
  | cons size sizes ih => rw [digits, ih, Nat.zero_div, Nat.zero_mod, List.map_cons]

theorem PickedAt.head?_of_zero {entries : Text → List Text} {names : List Text} {picks : Text → Option Text}
    (picked : PickedAt entries names 0 picks) : ∀ name ∈ names, picks name = (entries name).head? := by
  have each := picked.entry_of_digit
  rw [digits_zero, List.map_map, List.zipWith_map_right, List.zipWith_self, List.map_inj_left] at each
  intro name member
  rw [each name member, List.head?_eq_getElem?]
  rfl

theorem head?_units {text : Text} {entries : Text → List Text} (referring : Reference.names text ≠ [])
    (resolved : ∀ name ∈ Reference.names text, entries name ≠ []) :
    (units text (Reference.names text) entries).head? =
      some (Text.trim (Reference.substitute (fun name => (entries name).head?) text)) := by
  obtain ⟨picks, picked, first⟩ := exists_pickedAt text (Reference.nodup_names text) referring resolved
    (count_pos (lengths_pos resolved))
  have same : Reference.substitute picks text = Reference.substitute (fun name => (entries name).head?) text :=
    Reference.substitute_congr fun name member => by rw [picked.head?_of_zero name member]
  rw [List.head?_eq_getElem?, first, same]

end Selection

namespace UnitKind

/-- What a chain carries of a unit: its text if it is plain, the first option in place of its group, or its text with
the first entry for each name. -/
inductive Carries (trimWhitespace : Bool) (catalog : Catalog) : UnitKind → Text → Prop where
  | plain (text : Text) : Carries trimWhitespace catalog (.plain text) text
  | bracketed {text : Text} {group : Bracket.Group} {option : Text} {others : List Text}
      (options : group.options = option :: others) :
      Carries trimWhitespace catalog (.bracketed text group)
        (if trimWhitespace then Text.collapse (group.before ++ option ++ group.after)
          else group.before ++ option ++ group.after)
  | wildcarded {text : Text} (present : ∀ name ∈ Reference.names text, catalog.entries name ≠ []) :
      Carries trimWhitespace catalog (.wildcarded text (Reference.names text))
        (Text.trim (Reference.substitute catalog.firstEntry? text))

/-- Catalogs whose entries for the names of a unit begin alike make a chain carry the same of it. -/
theorem Carries.unique {trimWhitespace : Bool} {catalog other : Catalog} {kind : UnitKind} {unit rest : Text}
    (carries : kind.Carries trimWhitespace catalog unit) (carriesRest : kind.Carries trimWhitespace other rest)
    (alike : ∀ name ∈ kind.names, catalog.firstEntry? name = other.firstEntry? name) : unit = rest := by
  cases carries with
  | plain text =>
      cases carriesRest
      rfl
  | bracketed options =>
      cases carriesRest with
      | bracketed others =>
          cases options.symm.trans others
          rfl
  | @wildcarded text present =>
      cases carriesRest
      have same : Reference.substitute catalog.firstEntry? text = Reference.substitute other.firstEntry? text :=
        Reference.substitute_congr fun name member => by rw [alike name member]
      rw [same]

variable {settings : Settings} {catalog : Catalog}

theorem entries_ne_nil_of_valid {text : Text} (referring : Reference.names text ≠ [])
    (valid : ((wildcarded text (Reference.names text)).expand settings catalog).isValid = true) :
    ∀ name ∈ Reference.names text, catalog.entries name ≠ [] := by
  rw [expand_wildcarded settings catalog referring] at valid
  split at valid
  · cases valid
  · next unrefused => exact Selection.unresolved_eq_nil.mp (Selection.resolved_of_refusal? unrefused)

theorem exists_carried {step : Text} {kind : UnitKind} (read : ofText? step = .ok kind)
    (valid : (kind.expand settings catalog).isValid = true) :
    ∃ unit, (kind.expand settings catalog).units.head? = some unit ∧
      kind.Carries settings.trimWhitespace catalog unit := by
  cases kind with
  | plain text => exact ⟨text, rfl, .plain text⟩
  | bracketed text group =>
      simp only [expand] at valid ⊢
      cases made : group.units? settings with
      | error issue =>
          rw [made] at valid
          cases valid
      | ok units =>
          obtain ⟨present, _, rfl⟩ := Bracket.Group.units?_eq_ok_iff.mp made
          obtain ⟨option, others, options⟩ := List.exists_cons_of_ne_nil present
          refine ⟨group.unit settings.trimWhitespace option, ?_, .bracketed options⟩
          rw [options]
          rfl
  | wildcarded text names =>
      obtain ⟨referring, rfl, rfl⟩ := ofText?_eq_wildcarded_iff.mp read
      have present := entries_ne_nil_of_valid referring valid
      refine ⟨_, ?_, .wildcarded present⟩
      rw [units_of_wildcarded referring valid, Selection.head?_units referring present]
      rfl

end UnitKind

namespace Chain

section

variable {trimWhitespace : Bool} {catalog other : Catalog}

theorem carried_unique {kinds : List UnitKind} {units rest : List Text}
    (carried : List.Forall₂ (UnitKind.Carries trimWhitespace catalog) kinds units)
    (carriedRest : List.Forall₂ (UnitKind.Carries trimWhitespace other) kinds rest)
    (alike : ∀ kind ∈ kinds, ∀ name ∈ kind.names, catalog.firstEntry? name = other.firstEntry? name) : units = rest := by
  induction carried generalizing rest with
  | nil =>
      cases carriedRest
      rfl
  | cons carries _ ih =>
      cases carriedRest with
      | cons carriesRest later =>
          rw [List.forall_mem_cons] at alike
          rw [carries.unique carriesRest alike.1, ih later alike.2]

end

variable {settings : Settings} {catalog : Catalog} {text : Text} {kinds : List UnitKind}

theorem map_some_units_of_valid (valid : (expand settings catalog text kinds).isValid = true) :
    (expand settings catalog text kinds).units.map some =
      kinds.map fun kind => (kind.expand settings catalog).units.head? := by
  have quiet := (expand_isValid_iff settings catalog text kinds).mp valid
  have outcomes := congrArg (List.map fun outcome : Outcome UnitKind => outcome.units.head?)
    (map_outcome_expandSteps settings catalog kinds 1)
  rw [List.map_map, List.map_map] at outcomes
  exact (map_some_units_of_quiet settings catalog text quiet).trans outcomes

theorem forall₂_carries (read : (splitSteps text).map UnitKind.ofText? = kinds.map .ok)
    (valid : (expand settings catalog text kinds).isValid = true) :
    List.Forall₂ (UnitKind.Carries settings.trimWhitespace catalog) kinds (expand settings catalog text kinds).units := by
  have parts := (expand_isValid_iff_forall settings catalog text kinds).mp valid
  have firsts : List.Forall₂ (fun kind first => ∃ unit, first = some unit ∧
      UnitKind.Carries settings.trimWhitespace catalog kind unit) kinds
      ((expand settings catalog text kinds).units.map some) := by
    rw [map_some_units_of_valid valid, List.forall₂_map_right_iff, List.forall₂_same]
    intro kind member
    obtain ⟨step, _, stepRead⟩ := List.mem_map.mp (read ▸ List.mem_map_of_mem member)
    exact UnitKind.exists_carried stepRead (parts kind member)
  rw [List.forall₂_map_right_iff] at firsts
  apply firsts.imp
  rintro kind unit ⟨_, same, carries⟩
  exact Option.some.inj same ▸ carries

theorem exists_kinds_of_valid (barred : bar ∈ text)
    (valid : (PromptTemplate.expand settings catalog text).isValid = true) :
    ∃ kinds, Kind.ofText? settings.maxPipelineSteps text = .ok (.chain text kinds) ∧
      (splitSteps text).map UnitKind.ofText? = kinds.map .ok := by
  obtain ⟨kind, read, _⟩ := exists_kind_of_valid valid
  rcases Kind.cases_of_ofText? read with ⟨_, unbarred, _, _⟩ | ⟨kinds, _, _, each, rfl⟩
  · exact absurd barred unbarred
  · exact ⟨kinds, read, each⟩

theorem alike_on_steps {other : Catalog} (read : (splitSteps text).map UnitKind.ofText? = kinds.map .ok)
    (alike : ∀ name ∈ Reference.names text, catalog.firstEntry? name = other.firstEntry? name) :
    ∀ kind ∈ kinds, ∀ name ∈ kind.names, catalog.firstEntry? name = other.firstEntry? name := by
  intro kind member name named
  obtain ⟨step, among, stepRead⟩ := List.mem_map.mp (read ▸ List.mem_map_of_mem member)
  exact alike name (Reference.names_subset_of_mem_splitSteps among (UnitKind.names_subset stepRead named))

end Chain

/-- A chain depends on first choices only. The units of a valid chain are, step by step, the step with the first entry
for each of its names, with the first option of its group, or as it stands. So over any other catalog in which the
entries of the names begin alike the chain has the same units, the same count and the same prompts to run, if it is
valid there too. -/
theorem chain_carries_first_choices {settings : Settings} {catalog : Catalog} {text : Text}
    (barred : Chain.bar ∈ text) (valid : (expand settings catalog text).isValid = true) :
    let whole := expand settings catalog text
    (∃ kinds, (Chain.splitSteps text).map UnitKind.ofText? = kinds.map .ok ∧ whole.kind = some (.chain text kinds) ∧
      List.Forall₂ (UnitKind.Carries settings.trimWhitespace catalog) kinds whole.units) ∧
    ∀ other : Catalog,
      (∀ name ∈ Reference.names text, catalog.firstEntry? name = other.firstEntry? name) →
      (expand settings other text).isValid = true →
        (expand settings other text).units = whole.units ∧
        (expand settings other text).totalCount = whole.totalCount ∧
        (expand settings other text).executionPrompts = whole.executionPrompts := by
  intro whole
  obtain ⟨kinds, reading, read⟩ := Chain.exists_kinds_of_valid barred valid
  have chain : whole = Chain.expand settings catalog text kinds := expand_of_read catalog reading
  have carried : List.Forall₂ (UnitKind.Carries settings.trimWhitespace catalog) kinds whole.units := by
    rw [chain]
    exact Chain.forall₂_carries read (chain ▸ valid)
  refine ⟨⟨kinds, read, by rw [chain, Chain.kind_expand], carried⟩, ?_⟩
  intro other alike otherValid
  have otherChain : expand settings other text = Chain.expand settings other text kinds := expand_of_read other reading
  have units : (expand settings other text).units = whole.units := by
    apply Eq.symm
    apply Chain.carried_unique carried _ (Chain.alike_on_steps read alike)
    rw [otherChain]
    exact Chain.forall₂_carries read (otherChain ▸ otherValid)
  refine ⟨units, ?_, ?_⟩
  · rw [((expand_consistent settings other text).counted otherValid).1,
      ((expand_consistent settings catalog text).counted valid).1, units]
  · rw [executionPrompts_expand, executionPrompts_expand, units]

/-- One entry in the place of three, and other names with more; the steps are of all three kinds. -/
theorem chain_carries_first_of_three :
    let catalog : Catalog := [⟨"a".toList, ["x".toList, "y".toList, "z".toList]⟩, ⟨"b".toList, ["k".toList]⟩]
    let other : Catalog := [⟨"b".toList, ["k".toList, "l".toList]⟩, ⟨"a".toList, ["x".toList]⟩]
    let text := "_a_ by _b_, _a_ | A  [red, blue] sky | end".toList
    (expand {} catalog text).isValid = true ∧ (expand {} other text).isValid = true ∧
      (expand {} catalog text).units = ["x by k, x".toList, "A red sky".toList, "end".toList] ∧
      (expand {} other text).units = (expand {} catalog text).units ∧
      (expand {} other text).executionPrompts = (expand {} catalog text).executionPrompts := by
  intro catalog other text
  have valid : (expand {} catalog text).isValid = true := by
    simp only [catalog, text]
    cbv
  have otherValid : (expand {} other text).isValid = true := by
    simp only [other, text]
    cbv
  have found : Reference.names text = ["a".toList, "b".toList] := by
    simp only [text]
    cbv
  obtain ⟨_, agree⟩ := chain_carries_first_choices (by decide : Chain.bar ∈ text) valid
  have alike : ∀ name ∈ Reference.names text, catalog.firstEntry? name = other.firstEntry? name := by
    rw [found]
    decide
  obtain ⟨units, _, run⟩ := agree other alike otherValid
  refine ⟨valid, otherValid, ?_, units, run⟩
  simp only [catalog, text]
  cbv

end PromptTemplate
