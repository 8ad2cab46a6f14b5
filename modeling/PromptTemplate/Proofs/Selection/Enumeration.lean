import PromptTemplate.Expansion.Unit
import PromptTemplate.Proofs.Selection.MixedRadix

set_option autoImplicit false

namespace PromptTemplate.Selection

theorem getElem?_flatMap_of_length {α β : Type} {width : Nat} (block : α → List β)
    (items : List α) (same : ∀ item ∈ items, (block item).length = width) (positive : 0 < width)
    (index : Nat) :
    (items.flatMap block)[index]? =
      items[index / width]?.bind fun item => (block item)[index % width]? := by
  induction items generalizing index with
  | nil => simp
  | cons item items ih =>
      rw [List.forall_mem_cons] at same
      rw [List.flatMap_cons]
      by_cases first : index < width
      · rw [List.getElem?_append_left (by omega), Nat.div_eq_of_lt first, Nat.mod_eq_of_lt first]
        rfl
      · have behind : width ≤ index := by omega
        rw [List.getElem?_append_right (by omega), same.1, ih same.2,
          Nat.div_eq_sub_div positive behind, Nat.mod_eq_sub_mod behind]
        rfl

/-- The choice at an index takes from each list the element that the digit for the list says. -/
theorem getElem?_product {α : Type} (lists : List (List α)) (nonempty : ∀ list ∈ lists, list ≠ [])
    {index : Nat} (inside : index < count (lists.map List.length)) :
    ∃ chosen, (product lists)[index]? = some chosen ∧
      chosen.map some = List.zipWith (fun list digit => list[digit]?) lists
        (digits (lists.map List.length) index) := by
  induction lists generalizing index with
  | nil =>
      simp only [List.map_nil, count_nil] at inside
      obtain rfl : index = 0 := by omega
      exact ⟨[], rfl, rfl⟩
  | cons choices lists ih =>
      rw [List.forall_mem_cons] at nonempty
      have positive : ∀ size ∈ lists.map List.length, 0 < size := @lengths_pos _ _ lists id nonempty.2
      have width : 0 < count (lists.map List.length) := count_pos positive
      rw [List.map_cons, count_cons, Nat.mul_comm] at inside
      have leading : index / count (lists.map List.length) < choices.length :=
        Nat.div_lt_of_lt_mul inside
      obtain ⟨chosen, found, each⟩ := ih nonempty.2 (Nat.mod_lt index width)
      rw [digits_mod_count positive] at each
      refine ⟨choices[index / count (lists.map List.length)] :: chosen, ?_, ?_⟩
      · rw [product, getElem?_flatMap_of_length _ choices (fun choice _ => by
            rw [List.length_map, length_product]) width,
          List.getElem?_eq_getElem leading, Option.bind_some, List.getElem?_map, found,
          Option.map_some]
      · rw [List.map_cons, each, List.map_cons, digits, List.zipWith_cons_cons,
          Nat.mod_eq_of_lt leading, List.getElem?_eq_getElem leading]

/-- The first name of a list gets the first pick, unless the name is picked for again. -/
theorem pick_cons (name probe : Text) (names : List Text) (entry : Text) (picks : List Text) :
    pick (name :: names) (entry :: picks) probe =
      (pick names picks probe).or (if name == probe then some entry else none) := by
  simp only [pick, List.zip_cons_cons, List.reverse_cons, List.find?_append, List.find?_singleton]
  cases (names.zip picks).reverse.find? (·.1 == probe) with
  | some found => rfl
  | none =>
      simp only [Option.none_or, Option.map_none]
      split <;> rfl

theorem pick_eq_none {names : List Text} {probe : Text} (absent : probe ∉ names)
    (picks : List Text) : pick names picks probe = none := by
  induction names generalizing picks with
  | nil => rfl
  | cons name names ih =>
      cases picks with
      | nil => rfl
      | cons entry picks =>
          rw [List.mem_cons, not_or] at absent
          have apart : (name == probe) = false := by
            rw [beq_eq_false_iff_ne]
            exact Ne.symm absent.1
          rw [pick_cons, ih absent.2, apart]
          rfl

theorem map_pick {names picks : List Text} (distinct : names.Nodup)
    (same : names.length = picks.length) : names.map (pick names picks) = picks.map some := by
  induction names generalizing picks with
  | nil =>
      obtain rfl := List.eq_nil_of_length_eq_zero same.symm
      rfl
  | cons name names ih =>
      cases picks with
      | nil => simp at same
      | cons entry picks =>
          rw [List.nodup_cons] at distinct
          have later : names.map (pick (name :: names) (entry :: picks)) =
              names.map (pick names picks) := by
            apply List.map_congr_left
            intro other member
            have apart : (name == other) = false := by
              rw [beq_eq_false_iff_ne]
              rintro rfl
              exact distinct.1 member
            rw [pick_cons, apart]
            exact Option.or_none
          rw [List.map_cons, later, ih distinct.2 (Nat.succ.inj same), pick_cons,
            pick_eq_none distinct.1, BEq.rfl, List.map_cons]
          rfl

theorem isSome_pick {names picks : List Text} (distinct : names.Nodup)
    (same : names.length = picks.length) (probe : Text) :
    (pick names picks probe).isSome = true ↔ probe ∈ names := by
  constructor
  · intro picked
    by_contra absent
    rw [pick_eq_none absent] at picked
    cases picked
  · intro member
    have among : pick names picks probe ∈ names.map (pick names picks) := List.mem_map_of_mem member
    rw [map_pick distinct same] at among
    obtain ⟨entry, _, picked⟩ := List.mem_map.mp among
    rw [← picked]
    rfl

/-- Picks for names at an index: each name takes the entry that its digit of the index says, and nothing
else is picked for. -/
structure PickedAt (entries : Text → List Text) (names : List Text) (index : Nat)
    (picks : Text → Option Text) : Prop where
  entry_of_digit : names.map picks = List.zipWith (fun name digit => (entries name)[digit]?) names
    (digits (names.map fun name => (entries name).length) index)
  isSome_iff : ∀ name, (picks name).isSome = true ↔ name ∈ names

theorem exists_pickedAt (text : Text) {names : List Text} {entries : Text → List Text}
    (distinct : names.Nodup) (referring : names ≠ []) (resolved : ∀ name ∈ names, entries name ≠ [])
    {index : Nat} (inside : index < count (names.map fun name => (entries name).length)) :
    ∃ picks, PickedAt entries names index picks ∧
      (units text names entries)[index]? = some (Text.trim (Reference.substitute picks text)) := by
  have sizes : (names.map entries).map List.length = names.map fun name => (entries name).length :=
    List.map_map
  have nonempty : ∀ list ∈ names.map entries, list ≠ [] := by simpa using resolved
  obtain ⟨chosen, found, each⟩ := getElem?_product _ nonempty (by rwa [sizes])
  rw [sizes, List.zipWith_map_left] at each
  have width : names.length = chosen.length := by
    have lengths := congrArg List.length each
    simp only [List.length_map, List.length_zipWith, length_digits, Nat.min_self] at lengths
    exact lengths.symm
  refine ⟨pick names chosen, ⟨(map_pick distinct width).trans each, isSome_pick distinct width⟩, ?_⟩
  · rw [units_of_names text entries referring, List.getElem?_map, found]
    rfl

/-- Every selection makes one unit: the units are as many as there are selections, the unit at an index
follows the digits of the index, and each selection has one index. Combining counts the same units
beforehand, and either makes all of them or is refused by the danger threshold. -/
theorem units?_enumerates_selections (text : Text) (entries : Text → List Text)
    (referring : Reference.names text ≠ [])
    (resolved : ∀ name ∈ Reference.names text, entries name ≠ []) :
    let names := Reference.names text
    let sizes := names.map fun name => (entries name).length
    ∃ made, units? text names entries = .ok made ∧
      made.length = sizes.prod ∧ count sizes = sizes.prod ∧
      (∀ index < sizes.prod, ∃ picks, PickedAt entries names index picks ∧
        made[index]? = some (Text.trim (Reference.substitute picks text))) ∧
      (∀ index < sizes.prod, List.Forall₂ (· < ·) (digits sizes index) sizes ∧
        place sizes (digits sizes index) = index) ∧
      (∀ selected, List.Forall₂ (· < ·) selected sizes →
        ∃! index, index < sizes.prod ∧ digits sizes index = selected) ∧
      ∀ settings : Settings,
        let combined := combine settings text entries
        if settings.enforceThresholds = true ∧ settings.dangerThreshold < (count sizes : Int) then
          combined.isValid = false
        else combined.isValid = true ∧ combined.units = made ∧
          combined.totalCount = count sizes ∧ combined.totalCount = combined.units.length := by
  intro names sizes
  have positive : ∀ size ∈ sizes, 0 < size := lengths_pos resolved
  have settled : unresolved entries names = [] := unresolved_eq_nil.mpr resolved
  refine ⟨units text names entries, units?_of_resolved text settled, length_units text names entries,
    count_eq_prod sizes, ?_, ?_, ?_, ?_⟩
  · intro index inside
    exact exists_pickedAt text (Reference.nodup_names text) referring resolved inside
  · intro index inside
    exact ⟨digits_lt positive index, place_digits positive inside⟩
  · intro selected below
    exact existsUnique_digits below
  · intro settings combined
    have made : combined = _ := combine_of_names settings entries referring
    have refusal := refusal?_of_resolved settings settled
    by_cases refusing : settings.enforceThresholds = true ∧ settings.dangerThreshold < (count sizes : Int)
    · rw [if_pos refusing] at refusal
      rw [if_pos refusing, made, refusal]
      rfl
    · rw [if_neg refusing] at refusal
      rw [if_neg refusing, made, refusal]
      exact ⟨rfl, rfl, rfl, (length_units text names entries).symm⟩

/-- Two entries and three make six units, and the fifth takes the second entry of each name. -/
theorem six_units_of_two_names :
    let entries : Text → List Text := fun name =>
      if name = "a".toList then ["x".toList, "y".toList] else ["k".toList, "l".toList, "m".toList]
    let names := ["a".toList, "b".toList]
    ∃ made, units? "_a_ meets _b_ and _a_".toList names entries = .ok made ∧
      made.length = 6 ∧ ∃ picks, names.map picks = [some "y".toList, some "l".toList] ∧
        made[4]? = some (Text.trim (Reference.substitute picks "_a_ meets _b_ and _a_".toList)) := by
  intro entries names
  have found : Reference.names "_a_ meets _b_ and _a_".toList = names := by cbv
  have referring : Reference.names "_a_ meets _b_ and _a_".toList ≠ [] := by
    rw [found]
    decide
  have resolved : ∀ name ∈ Reference.names "_a_ meets _b_ and _a_".toList, entries name ≠ [] := by
    rw [found]
    decide
  have whole := units?_enumerates_selections _ entries referring resolved
  rw [found] at whole
  obtain ⟨made, units, length, _, each, _⟩ := whole
  obtain ⟨picks, picked, fifth⟩ := each 4 (by decide)
  have chosen : names.map picks = [some "y".toList, some "l".toList] :=
    picked.entry_of_digit.trans (by decide)
  exact ⟨made, units, length, picks, chosen, fifth⟩

end PromptTemplate.Selection
