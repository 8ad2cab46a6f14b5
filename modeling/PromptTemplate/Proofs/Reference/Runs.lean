import PromptTemplate.Proofs.Kind.Reading
import PromptTemplate.Proofs.Reference.Pieces
import PromptTemplate.Proofs.Text.Runs

set_option autoImplicit false

namespace PromptTemplate.Reference

open Text (isWordChar blocks wordRuns)

/-- The first and the last underscore of a run. -/
structure Bounds (run : Text) (first last : Nat) : Prop where
  opening : run[first]? = some '_'
  closing : run[last]? = some '_'
  outermost : ∀ index, run[index]? = some '_' → first ≤ index ∧ index ≤ last

/-- What stands between the first and the last underscore of a run, if these are at least two positions
apart. -/
def enclosed? (run : Text) : Option Text :=
  let first := run.idxOf '_'
  let last := run.length - 1 - run.reverse.idxOf '_'
  if first + 2 ≤ last then some ((run.take last).drop (first + 1)) else none

theorem drop_of_getElem? {run : Text} {index : Nat} {c : Char} (found : run[index]? = some c) :
    run.drop index = c :: run.drop (index + 1) := by
  obtain ⟨inside, rfl⟩ := List.getElem?_eq_some_iff.mp found
  exact List.drop_eq_getElem_cons inside

namespace Bounds

variable {run : Text} {first last : Nat} (bounds : Bounds run first last)

include bounds

theorem not_mem_take : '_' ∉ run.take first := by
  intro member
  obtain ⟨index, found⟩ := List.mem_iff_getElem?.mp member
  rw [List.getElem?_take] at found
  split at found
  · next before =>
      have bound := (bounds.outermost index found).1
      omega
  · cases found

theorem not_mem_drop {start : Nat} (behind : last < start) : '_' ∉ run.drop start := by
  intro member
  obtain ⟨index, found⟩ := List.mem_iff_getElem?.mp member
  rw [List.getElem?_drop] at found
  have bound := (bounds.outermost _ found).2
  omega

theorem idxOf_eq : run.idxOf '_' = first := by
  obtain ⟨inside, opening⟩ := List.getElem?_eq_some_iff.mp bounds.opening
  rw [List.idxOf, List.findIdx_eq inside]
  refine ⟨beq_iff_eq.mpr opening, fun index before => beq_eq_false_iff_ne.mpr fun found => ?_⟩
  have bound := (bounds.outermost index (List.getElem?_eq_some_iff.mpr ⟨_, found⟩)).1
  omega

theorem lastIdxOf_eq : run.length - 1 - run.reverse.idxOf '_' = last := by
  obtain ⟨inside, closing⟩ := List.getElem?_eq_some_iff.mp bounds.closing
  have back : run.reverse.idxOf '_' = run.length - 1 - last := by
    rw [List.idxOf, List.findIdx_eq (by rw [List.length_reverse]; omega)]
    constructor
    · rw [List.getElem_reverse, beq_iff_eq, ← closing]
      congr 1
      omega
    · intro index before
      rw [List.getElem_reverse, beq_eq_false_iff_ne]
      intro found
      have bound := (bounds.outermost _ (List.getElem?_eq_some_iff.mpr ⟨_, found⟩)).2
      omega
  omega

theorem enclosed?_eq : enclosed? run =
    if first + 2 ≤ last then some ((run.take last).drop (first + 1)) else none := by
  simp only [enclosed?, bounds.idxOf_eq, bounds.lastIdxOf_eq]

theorem drop_first : run.drop first = '_' :: run.drop (first + 1) :=
  drop_of_getElem? bounds.opening

/-- What follows the first underscore, cut at the last one. -/
theorem drop_between (apart : first < last) :
    run.drop (first + 1) = (run.take last).drop (first + 1) ++ '_' :: run.drop (last + 1) := by
  rw [← drop_of_getElem? bounds.closing, List.drop_take]
  have rest : run.drop last = (run.drop (first + 1)).drop (last - (first + 1)) := by
    rw [List.drop_drop]
    congr 1
    omega
  rw [rest, List.take_append_drop]

theorem pieces_of_apart (word : ∀ c ∈ run, isWordChar c = true) (apart : first + 2 ≤ last) :
    pieces run = (run.take first).map .literal ++
      .reference ((run.take last).drop (first + 1)) :: (run.drop (last + 1)).map .literal := by
  obtain ⟨inside, _⟩ := List.getElem?_eq_some_iff.mp bounds.closing
  have between := bounds.drop_between (by omega)
  have absent := bounds.not_mem_drop (Nat.lt_succ_self last)
  have nonempty : (run.take last).drop (first + 1) ≠ [] := by
    rw [← List.length_pos_iff, List.length_drop, List.length_take]
    omega
  have found : opened? (run.drop (first + 1)) =
      some ((run.take last).drop (first + 1), run.drop (last + 1)) := by
    have within : ∀ c ∈ run.drop (first + 1), isWordChar c = true :=
      fun c member => word c (List.mem_of_mem_drop member)
    rw [between] at within ⊢
    exact opened?_of_last nonempty within absent
  conv => lhs; rw [← List.take_append_drop first run, bounds.drop_first]
  rw [pieces_append_of_not_mem bounds.not_mem_take, pieces_of_opened found, pieces_of_not_mem absent]

theorem pieces_of_close (close : ¬ first + 2 ≤ last) : pieces run = run.map .literal := by
  have absent : '_' ∉ (run.drop (first + 1)).tail := by
    rw [List.tail_drop]
    exact bounds.not_mem_drop (by omega)
  conv => lhs; rw [← List.take_append_drop first run, bounds.drop_first]
  conv => rhs; rw [← List.take_append_drop first run, bounds.drop_first]
  rw [pieces_append_of_not_mem bounds.not_mem_take, pieces_of_unopened (opened?_of_not_mem_tail absent),
    pieces_of_not_mem_tail absent, List.map_append, List.map_cons]

end Bounds

theorem exists_bounds {run : Text} (present : '_' ∈ run) : ∃ first last, Bounds run first last := by
  have inside := List.idxOf_lt_length_of_mem present
  have back := List.idxOf_lt_length_of_mem (List.mem_reverse.mpr present)
  rw [List.length_reverse] at back
  refine ⟨run.idxOf '_', run.length - 1 - run.reverse.idxOf '_', ?_, ?_, ?_⟩
  · exact List.getElem?_eq_some_iff.mpr ⟨inside, List.getElem_idxOf inside⟩
  · rw [← List.getElem?_reverse back]
    exact List.getElem?_eq_some_iff.mpr ⟨by rwa [List.length_reverse], List.getElem_idxOf _⟩
  · intro index found
    obtain ⟨within, letter⟩ := List.getElem?_eq_some_iff.mp found
    constructor
    · by_contra before
      have other := List.not_of_lt_findIdx (Nat.lt_of_not_le before)
      exact beq_eq_false_iff_ne.mp other letter
    · by_contra behind
      have before : run.length - 1 - index < run.reverse.idxOf '_' := by omega
      have other := List.not_of_lt_findIdx before
      rw [List.getElem_reverse, beq_eq_false_iff_ne] at other
      apply other
      refine Eq.trans ?_ letter
      congr 1
      omega

theorem enclosed?_of_not_mem {run : Text} (absent : '_' ∉ run) : enclosed? run = none := by
  have beyond : ¬ run.idxOf '_' + 2 ≤ run.length - 1 - run.reverse.idxOf '_' := by
    rw [List.idxOf_eq_length absent]
    omega
  simp only [enclosed?, beyond, ↓reduceIte]

theorem enclosed?_eq_some_iff {run name : Text} : enclosed? run = some name ↔
    ∃ first last, Bounds run first last ∧ first + 2 ≤ last ∧ name = (run.take last).drop (first + 1) := by
  constructor
  · intro encloses
    by_cases present : '_' ∈ run
    · obtain ⟨first, last, bounds⟩ := exists_bounds present
      rw [bounds.enclosed?_eq] at encloses
      split at encloses
      · next apart =>
          cases encloses
          exact ⟨first, last, bounds, apart, rfl⟩
      · cases encloses
    · rw [enclosed?_of_not_mem present] at encloses
      cases encloses
  · rintro ⟨first, last, bounds, apart, rfl⟩
    rw [bounds.enclosed?_eq, if_pos apart]

theorem occurrences_of_literals (text : Text) : (text.map Piece.literal).filterMap nameOf? = [] := by
  simp [List.filterMap_map, Function.comp_def, nameOf?]

theorem pieces_of_enclosed?_eq_none {run : Text} (none : enclosed? run = none) :
    pieces run = run.map .literal := by
  by_cases present : '_' ∈ run
  · obtain ⟨first, last, bounds⟩ := exists_bounds present
    apply bounds.pieces_of_close
    intro apart
    rw [bounds.enclosed?_eq, if_pos apart] at none
    cases none
  · exact pieces_of_not_mem present

/-- A run of word characters refers to the name that it encloses and to no other. -/
theorem occurrences_run {run : Text} (word : ∀ c ∈ run, isWordChar c = true) :
    occurrences run = (enclosed? run).toList := by
  cases encloses : enclosed? run with
  | none => rw [occurrences, pieces_of_enclosed?_eq_none encloses, occurrences_of_literals]; rfl
  | some name =>
      obtain ⟨first, last, bounds, apart, rfl⟩ := enclosed?_eq_some_iff.mp encloses
      rw [occurrences, bounds.pieces_of_apart word apart, List.filterMap_append, List.filterMap_cons]
      simp only [occurrences_of_literals, nameOf?]
      rfl

/-- Reading goes block by block. -/
theorem pieces_flatten {parts : List Text} (nonempty : [] ∉ parts)
    (parted : parts.IsChain fun left right => ∀ a ∈ left, ∀ b ∈ right, isWordChar a ≠ isWordChar b) :
    pieces parts.flatten = parts.flatMap pieces := by
  induction parts with
  | nil => exact pieces_nil
  | cons part rest ih =>
      rw [List.mem_cons, not_or] at nonempty
      obtain ⟨next, others⟩ := List.isChain_cons.mp parted
      rw [List.flatten_cons, List.flatMap_cons, ← ih nonempty.2 others]
      apply pieces_append
      intro a atEnd c atStart kept
      cases rest with
      | nil => cases atStart
      | cons second rest =>
          obtain ⟨d, tail, rfl⟩ :=
            List.exists_cons_of_ne_nil (Ne.symm (List.ne_of_not_mem_cons nonempty.2))
          rw [List.flatten_cons, List.cons_append, List.head?_cons, Option.mem_some_iff] at atStart
          subst atStart
          have differ := next _ rfl a (List.mem_of_getLast? atEnd) _ List.mem_cons_self
          rw [kept] at differ
          exact Bool.eq_false_iff.mpr (Ne.symm differ)

theorem pieces_eq_flatMap_blocks (text : Text) : pieces text = (blocks text).flatMap pieces := by
  have cut := Text.blocks_isCut text
  rw [← pieces_flatten cut.nonempty cut.maximal, cut.whole]

theorem pieces_of_not_mem_wordRuns {text block : Text} (among : block ∈ blocks text)
    (other : block ∉ wordRuns text) : pieces block = block.map .literal := by
  apply pieces_of_not_mem
  intro member
  have plain := Text.not_isWordChar_of_not_mem_wordRuns among other '_' member
  exact ne_underscore_of_not_isWordChar plain rfl

theorem occurrences_eq_filterMap_wordRuns (text : Text) :
    occurrences text = (wordRuns text).filterMap enclosed? := by
  have named : ∀ block ∈ blocks text, occurrences block =
      if block.all isWordChar = true then (enclosed? block).toList else [] := by
    intro block among
    split
    · next word => exact occurrences_run (List.all_eq_true.mp word)
    · next other =>
        have outside : block ∉ wordRuns text := fun member => other (List.mem_filter.mp member).2
        rw [occurrences, pieces_of_not_mem_wordRuns among outside, occurrences_of_literals]
  calc occurrences text = (blocks text).flatMap occurrences := by
        rw [occurrences, pieces_eq_flatMap_blocks, List.filterMap_flatMap]
        rfl
    _ = (blocks text).flatMap fun block =>
          (if block.all isWordChar = true then enclosed? block else none).toList := by
        apply List.flatMap_congr
        intro block among
        rw [named block among]
        split <;> rfl
    _ = (wordRuns text).filterMap enclosed? := by
        rw [wordRuns, List.filterMap_filter, List.filterMap_eq_flatMap_toList]

theorem refers_iff (text : Text) : refers text = true ↔ occurrences text ≠ [] := by
  induction text with
  | nil => simp [refers, occurrences]
  | cons c rest ih =>
      rw [refers, Bool.or_eq_true, Bool.and_eq_true, beq_iff_eq, ih]
      by_cases underscore : c = '_'
      · subst underscore
        cases found : opened? rest with
        | none => simp [occurrences, pieces_of_unopened found, nameOf?]
        | some reference => simp [occurrences, pieces_of_opened found, nameOf?]
      · simp [occurrences, pieces_cons_of_ne underscore, underscore, nameOf?]

theorem names_ne_nil_iff (text : Text) : names text ≠ [] ↔ occurrences text ≠ [] := by
  rw [names]
  cases occurrences text with
  | nil => simp
  | cons name others => simp [List.eraseDups_cons]

/-- A text refers to a name if and only if the first and the last underscore of a run enclose one. -/
theorem occurrences_ne_nil_iff (text : Text) : occurrences text ≠ [] ↔
    ∃ run ∈ wordRuns text, ∃ first last, Bounds run first last ∧ first + 2 ≤ last := by
  rw [occurrences_eq_filterMap_wordRuns, ne_eq, List.filterMap_eq_nil_iff]
  simp only [not_forall, exists_prop]
  refine exists_congr fun run => and_congr_right fun _ => ?_
  rw [← ne_eq, Option.ne_none_iff_exists']
  constructor
  · rintro ⟨name, encloses⟩
    obtain ⟨first, last, bounds, apart, _⟩ := enclosed?_eq_some_iff.mp encloses
    exact ⟨first, last, bounds, apart⟩
  · rintro ⟨first, last, bounds, apart⟩
    exact ⟨_, enclosed?_eq_some_iff.mpr ⟨first, last, bounds, apart, rfl⟩⟩

theorem exists_reference_mem_pieces_iff {run : Text} (word : ∀ c ∈ run, isWordChar c = true) :
    (∃ name, Piece.reference name ∈ pieces run) ↔
      ∃ first last, Bounds run first last ∧ first + 2 ≤ last := by
  constructor
  · rintro ⟨name, member⟩
    by_contra close
    have none : enclosed? run = none := by
      rw [Option.eq_none_iff_forall_ne_some]
      intro found encloses
      obtain ⟨first, last, bounds, apart, _⟩ := enclosed?_eq_some_iff.mp encloses
      exact close ⟨first, last, bounds, apart⟩
    rw [pieces_of_enclosed?_eq_none none] at member
    simp at member
  · rintro ⟨first, last, bounds, apart⟩
    rw [bounds.pieces_of_apart word apart]
    exact ⟨_, List.mem_append_right _ List.mem_cons_self⟩

/-- The grammar of references. A text is read block by block, so that no reference goes beyond a run, and
outside the runs everything is literal. A run holds a reference if and only if its first and last
underscores are at least two positions apart; then it holds one, from the first to the last underscore, and
the name is all that stands between. The names of the text are these names, each at its first run. -/
theorem pieces_and_names_by_wordRuns (text : Text) :
    let runs := wordRuns text
    let refersToName := ∃ run ∈ runs, ∃ first last, Bounds run first last ∧ first + 2 ≤ last
    Text.IsCut text (blocks text) ∧ pieces text = (blocks text).flatMap pieces ∧
      (∀ block ∈ blocks text, block ∉ runs → pieces block = block.map .literal) ∧
      (∀ run ∈ runs,
        ((∃ name, Piece.reference name ∈ pieces run) ↔
          ∃ first last, Bounds run first last ∧ first + 2 ≤ last) ∧
        (∀ first last, Bounds run first last → first + 2 ≤ last →
          pieces run = (run.take first).map .literal ++
            .reference ((run.take last).drop (first + 1)) :: (run.drop (last + 1)).map .literal) ∧
        ∀ name, enclosed? run = some name ↔ ∃ first last,
          Bounds run first last ∧ first + 2 ≤ last ∧ name = (run.take last).drop (first + 1)) ∧
      names text = (runs.filterMap enclosed?).eraseDups ∧
      (refers text = true ↔ refersToName) ∧
      ∀ read found, UnitKind.ofText? text = .ok (.wildcarded read found) ↔
        refersToName ∧ read = text ∧ found = (runs.filterMap enclosed?).eraseDups := by
  intro runs refersToName
  have listed : names text = (runs.filterMap enclosed?).eraseDups := by
    rw [names, occurrences_eq_filterMap_wordRuns]
  have referring : occurrences text ≠ [] ↔ refersToName := occurrences_ne_nil_iff text
  refine ⟨Text.blocks_isCut text, pieces_eq_flatMap_blocks text, ?_, ?_, listed, ?_, ?_⟩
  · intro block among other
    exact pieces_of_not_mem_wordRuns among other
  · intro run member
    have word := Text.all_isWordChar_of_mem_wordRuns member
    refine ⟨exists_reference_mem_pieces_iff word, ?_, fun name => enclosed?_eq_some_iff⟩
    intro first last bounds apart
    exact bounds.pieces_of_apart word apart
  · rw [refers_iff, referring]
  · intro read found
    rw [UnitKind.ofText?_eq_wildcarded_iff, names_ne_nil_iff, referring, listed]

/-- Names may begin with an underscore; two underscores side by side and a single one refer to nothing. -/
theorem names_of_five_runs :
    let text := "__hero_s, __ a_b: x_hero_, _hero_".toList
    let run := "__hero_s".toList
    run ∈ wordRuns text ∧ Bounds run 0 6 ∧
      pieces run = [.reference "_hero".toList, .literal 's'] ∧
      names text = ["_hero".toList, "hero".toList] ∧ refers text = true ∧
      UnitKind.ofText? text = .ok (.wildcarded text ["_hero".toList, "hero".toList]) := by
  intro text run
  have member : run ∈ wordRuns text := by decide
  have bounds : Bounds run 0 6 := by
    have within : ∀ index < 8, run[index]? = some '_' → 0 ≤ index ∧ index ≤ 6 := by decide
    exact ⟨rfl, rfl, fun index found => within index (List.getElem?_eq_some_iff.mp found).1 found⟩
  obtain ⟨_, _, _, each, listed, searched, classified⟩ := pieces_and_names_by_wordRuns text
  have named : ((wordRuns text).filterMap enclosed?).eraseDups = ["_hero".toList, "hero".toList] := by
    decide
  rw [named] at listed classified
  have referring : ∃ run ∈ wordRuns text, ∃ first last, Bounds run first last ∧ first + 2 ≤ last :=
    ⟨run, member, 0, 6, bounds, by decide⟩
  exact ⟨member, bounds, (each run member).2.1 0 6 bounds (by decide), listed, searched.mpr referring,
    (classified _ _).mpr ⟨referring, rfl, rfl⟩⟩

end PromptTemplate.Reference
