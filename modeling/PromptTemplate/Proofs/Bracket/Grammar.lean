import PromptTemplate.Kind
import PromptTemplate.Proofs.Bracket.Vacancy

set_option autoImplicit false

namespace PromptTemplate.Bracket

/-- No character of a text is a bracket. -/
def IsFree (text : Text) : Prop :=
  ∀ c ∈ text, isBracket c = false

/-- A text cut at two brackets that are its only ones. -/
structure IsPair (first second : Char) (text before inner after : Text) : Prop where
  whole : text = before ++ first :: (inner ++ second :: after)
  free_before : IsFree before
  free_inner : IsFree inner
  free_after : IsFree after

/-- A text cut at its group: the only brackets are a pair around something that is not blank. -/
structure IsGroup (text before raw after : Text) : Prop extends IsPair '[' ']' text before raw after where
  inked : Text.isBlank raw = false

/-- The verdicts on the brackets of a text. More brackets of one kind than of the other count before several pairs,
and these before what is wrong with a single pair. -/
inductive Verdict (text : Text) : Validation → Prop where
  | free (free : IsFree text) : Verdict text { isValid := true }
  | group {before raw after : Text} (group : IsGroup text before raw after) : Verdict text { isValid := true }
  | unclosed (fewer : text.count ']' < text.count '[') : Verdict text
      { isValid := false
        error := some "Missing closing bracket ]"
        suggestion := some "Add ] to close your options" }
  | unopened (fewer : text.count '[' < text.count ']') : Verdict text
      { isValid := false
        error := some "Missing opening bracket ["
        suggestion := some "Add [ before your options" }
  | several (same : text.count '[' = text.count ']') (many : 1 < text.count '[') : Verdict text
      { isValid := false
        error := some "Multiple brackets not supported"
        suggestion := some "Use only one [option1, option2] per prompt" }
  | blank {before inner after : Text} (pair : IsPair '[' ']' text before inner after)
      (blank : Text.isBlank inner = true) : Verdict text
      { isValid := false
        error := some "Empty brackets"
        suggestion := some "Add options inside brackets: [option1, option2]" }
  | reversed {before inner after : Text} (pair : IsPair ']' '[' text before inner after) : Verdict text
      { isValid := false
        error := some "Missing closing bracket ]"
        suggestion := some "Add ] after your options" }

theorem isFree_iff_count {text : Text} : IsFree text ↔ text.count '[' = 0 ∧ text.count ']' = 0 :=
  forall_isBracket_eq_false_iff

theorem IsFree.not_mem {text : Text} (free : IsFree text) {c : Char} (bracket : isBracket c = true) : c ∉ text := by
  intro member
  rw [free c member] at bracket
  cases bracket

/-! ### Pairs -/

namespace IsPair

variable {text before inner after : Text}

theorem counts {first second : Char} (pair : IsPair first second text before inner after)
    (brackets : first = '[' ∧ second = ']' ∨ first = ']' ∧ second = '[') :
    text.count '[' = 1 ∧ text.count ']' = 1 := by
  obtain ⟨rfl, outside, between, behind⟩ := pair
  rw [isFree_iff_count] at outside between behind
  rcases brackets with ⟨rfl, rfl⟩ | ⟨rfl, rfl⟩
  · simp [outside, between, behind]
  · simp [outside, between, behind]

theorem cut? (pair : IsPair '[' ']' text before inner after) :
    Bracket.cut? text = some (before, inner, after) :=
  cut?_eq_some_iff.mpr ⟨pair.whole, pair.free_before.not_mem rfl, pair.free_inner⟩

/-- A pair the wrong way round is none. -/
theorem cut?_reversed (pair : IsPair ']' '[' text before inner after) : Bracket.cut? text = none := by
  rw [Option.eq_none_iff_forall_ne_some]
  rintro ⟨opened, raw, closed⟩ cut
  obtain ⟨whole, _, _⟩ := cut?_eq_some_iff.mp cut
  -- Both cuts are at the one opening bracket, and nothing behind it closes.
  have outside : '[' ∉ before := pair.free_before.not_mem rfl
  have between : '[' ∉ inner := pair.free_inner.not_mem rfl
  have unopened : '[' ∉ before ++ ']' :: inner := by simp [outside, between]
  have same := (List.append_cons_inj_of_notMem unopened (pair.free_after.not_mem rfl)).mp
    ((List.append_assoc before (']' :: inner) _).trans (pair.whole.symm.trans whole))
  have closing : ']' ∈ after := by simp [same.2.2]
  exact pair.free_after.not_mem rfl closing

/-- A text is cut in one way at an opening and a closing bracket that are its only ones. -/
theorem unique {before' inner' after' : Text} (pair : IsPair '[' ']' text before inner after)
    (other : IsPair '[' ']' text before' inner' after') : before = before' ∧ inner = inner' ∧ after = after' := by
  have same := pair.cut?.symm.trans other.cut?
  simpa using same

theorem fault?_eq (pair : IsPair '[' ']' text before inner after) :
    fault? text = if Text.isBlank inner then some .blank else none := by
  obtain ⟨opens, closes⟩ := pair.counts (Or.inl ⟨rfl, rfl⟩)
  simp [fault?, opens, closes, pair.cut?]

theorem fault?_reversed (pair : IsPair ']' '[' text before inner after) : fault? text = some .reversed := by
  obtain ⟨opens, closes⟩ := pair.counts (Or.inr ⟨rfl, rfl⟩)
  simp [fault?, opens, closes, pair.cut?_reversed]

end IsPair

/-- One bracket of each kind makes a pair, the one way round or the other. -/
theorem exists_pair_of_counts {text : Text} (opens : text.count '[' = 1) (closes : text.count ']' = 1) :
    (∃ before inner after, IsPair '[' ']' text before inner after) ∨
      ∃ before inner after, IsPair ']' '[' text before inner after := by
  have opening : '[' ∈ text := List.count_pos_iff.mp (by omega)
  have closing : ']' ∈ text := List.count_pos_iff.mp (by omega)
  obtain ⟨before, after, rfl⟩ := List.append_of_mem opening
  rcases List.mem_append.mp closing with early | late
  · obtain ⟨outer, inner, rfl⟩ := List.append_of_mem early
    simp only [List.append_assoc, List.cons_append, List.count_append, ne_eq, Char.reduceEq, not_false_eq_true,
      List.count_cons_of_ne, List.count_cons_self] at opens closes
    refine Or.inr ⟨outer, inner, after, by simp, ?_, ?_, ?_⟩
    all_goals
      rw [isFree_iff_count]
      omega
  · obtain ⟨inner, outer, rfl⟩ := List.append_of_mem ((List.mem_cons.mp late).resolve_left (by decide))
    simp only [List.count_append, ne_eq, Char.reduceEq, not_false_eq_true, List.count_cons_of_ne,
      List.count_cons_self] at opens closes
    refine Or.inl ⟨before, inner, outer, rfl, ?_, ?_, ?_⟩
    all_goals
      rw [isFree_iff_count]
      omega

/-! ### The search -/

/-- The first pair of brackets from the left that has no bracket between them, and so many characters at least. -/
structure IsFirstPair (least : Nat) (text before inner after : Text) : Prop where
  whole : text = before ++ '[' :: (inner ++ ']' :: after)
  free_inner : IsFree inner
  enough : least ≤ inner.length
  leftmost : ∀ before' inner' after', text = before' ++ '[' :: (inner' ++ ']' :: after') → IsFree inner' →
    least ≤ inner'.length → before.length ≤ before'.length

/-- In a text with one opening bracket at most, a search for the first pair around anything, or around at least so
many characters, finds the cut of the text or nothing. -/
theorem isFirstPair_iff_cut? {least : Nat} {text before inner after : Text} (single : text.count '[' ≤ 1) :
    IsFirstPair least text before inner after ↔ cut? text = some (before, inner, after) ∧ least ≤ inner.length := by
  have cut_of_whole : ∀ {before inner after : Text}, text = before ++ '[' :: (inner ++ ']' :: after) →
      IsFree inner → cut? text = some (before, inner, after) := by
    intro before inner after whole free
    refine cut?_eq_some_iff.mpr ⟨whole, ?_, free⟩
    rw [whole, List.count_append, List.count_cons_self] at single
    exact List.count_eq_zero.mp (by omega)
  constructor
  · intro found
    exact ⟨cut_of_whole found.whole found.free_inner, found.enough⟩
  · rintro ⟨cut, enough⟩
    obtain ⟨whole, _, free⟩ := cut?_eq_some_iff.mp cut
    refine ⟨whole, free, enough, fun before' inner' after' other between _ => ?_⟩
    have same := cut.symm.trans (cut_of_whole other between)
    cases same
    exact Nat.le_refl _

theorem IsGroup.isFirstPair {text before raw after : Text} (group : IsGroup text before raw after) {least : Nat}
    (few : least ≤ 1) : IsFirstPair least text before raw after := by
  have single := (group.toIsPair.counts (Or.inl ⟨rfl, rfl⟩)).1
  refine (isFirstPair_iff_cut? (Nat.le_of_eq single)).mpr ⟨group.toIsPair.cut?, Nat.le_trans few ?_⟩
  rw [Nat.one_le_iff_ne_zero, ne_eq, List.length_eq_zero_iff]
  rintro rfl
  exact absurd group.inked (by decide)

/-! ### The check -/

theorem IsFree.cut? {text : Text} (free : IsFree text) : Bracket.cut? text = none :=
  cut?_of_not_mem (free.not_mem rfl)

theorem IsFree.fault?_eq {text : Text} (free : IsFree text) : fault? text = none := by
  obtain ⟨opens, closes⟩ := isFree_iff_count.mp free
  simp [fault?, opens, closes, free.cut?]

theorem exists_verdict (text : Text) : ∃ verdict, Verdict text verdict := by
  rcases Nat.lt_trichotomy (text.count '[') (text.count ']') with fewer | same | fewer
  · exact ⟨_, .unopened fewer⟩
  · rcases Nat.lt_trichotomy (text.count '[') 1 with none | one | several
    · exact ⟨_, .free (isFree_iff_count.mpr ⟨by omega, by omega⟩)⟩
    · rcases exists_pair_of_counts one (by omega) with ⟨before, inner, after, pair⟩ | ⟨before, inner, after, pair⟩
      · cases blank : Text.isBlank inner with
        | true => exact ⟨_, .blank pair blank⟩
        | false => exact ⟨_, .group ⟨pair, blank⟩⟩
      · exact ⟨_, .reversed pair⟩
    · exact ⟨_, .several same several⟩
  · exact ⟨_, .unclosed fewer⟩

theorem Verdict.validate_eq {text : Text} {verdict : Validation} (judged : Verdict text verdict) :
    validate text = verdict := by
  rw [validate]
  cases judged with
  | free free =>
      rw [free.fault?_eq]
      rfl
  | group group =>
      rw [group.toIsPair.fault?_eq, group.inked]
      rfl
  | unclosed fewer =>
      have found : fault? text = some .unclosed := by simp [fault?, fewer]
      rw [found]
      rfl
  | unopened fewer =>
      have found : fault? text = some .unopened := by simp [fault?, fewer, Nat.lt_asymm fewer]
      rw [found]
      rfl
  | several same many =>
      have found : fault? text = some .several := by simp [fault?, ← same, many]
      rw [found]
      rfl
  | blank pair blank =>
      rw [pair.fault?_eq, blank]
      rfl
  | reversed pair =>
      rw [pair.fault?_reversed]
      rfl

theorem validate_eq_iff {text : Text} {verdict : Validation} : validate text = verdict ↔ Verdict text verdict := by
  constructor
  · rintro rfl
    obtain ⟨verdict, judged⟩ := exists_verdict text
    exact judged.validate_eq ▸ judged
  · exact Verdict.validate_eq

theorem isValid_validate_iff {text : Text} : (validate text).isValid = true ↔
    IsFree text ∨ ∃ before raw after, IsGroup text before raw after := by
  constructor
  · intro valid
    generalize found : validate text = verdict at valid
    cases validate_eq_iff.mp found with
    | free free => exact Or.inl free
    | group group => exact Or.inr ⟨_, _, _, group⟩
    | _ => cases valid
  · rintro (free | ⟨before, raw, after, group⟩)
    · rw [(Verdict.free free).validate_eq]
    · rw [(Verdict.group group).validate_eq]

/-! ### The group -/

theorem group?_eq_ok_iff {text : Text} {group : Group} : group? text = .ok group ↔
    IsGroup text group.before group.raw group.after ∧ group.options = splitOptions group.raw := by
  constructor
  · intro grouped
    cases sound : fault? text with
    | some fault =>
        rw [group?, sound] at grouped
        cases grouped
    | none =>
        cases cut : cut? text with
        | none =>
            simp only [group?, sound, cut] at grouped
            cases grouped
        | some parts =>
            obtain ⟨before, raw, after⟩ := parts
            simp only [group?, sound, cut] at grouped
            cases grouped
            obtain ⟨whole, _, between⟩ := cut?_eq_some_iff.mp cut
            obtain ⟨outside, inked⟩ := (fault?_of_cut cut).mp sound
            obtain ⟨outer, behind⟩ := List.forall_mem_append.mp outside
            exact ⟨⟨⟨whole, outer, between, behind⟩, inked⟩, rfl⟩
  · rintro ⟨found, split⟩
    have sound : fault? text = none := by
      rw [found.toIsPair.fault?_eq, found.inked]
      rfl
    simp only [group?, sound, found.toIsPair.cut?, ← split]

theorem fault?_ne_absent (text : Text) : fault? text ≠ some .absent := by
  grind [fault?]

theorem group?_eq_absent_iff {text : Text} : group? text = .error .absent ↔ IsFree text := by
  constructor
  · intro absent
    cases sound : fault? text with
    | some fault =>
        rw [group?, sound] at absent
        cases absent
        exact absurd sound (fault?_ne_absent text)
    | none =>
        have passed : validate text = { isValid := true } := by
          rw [validate, sound]
          rfl
        rcases isValid_validate_iff.mp (by rw [passed]) with free | ⟨before, raw, after, group⟩
        · exact free
        · have grouped : group? text = .ok ⟨before, after, splitOptions raw, raw⟩ :=
            group?_eq_ok_iff.mpr ⟨group, rfl⟩
          rw [absent] at grouped
          cases grouped
  · intro free
    simp only [group?, free.fault?_eq, free.cut?]

theorem Fault.message_eq_absent_iff {fault : Fault} : fault.message = "No bracket group found" ↔ fault = .absent := by
  cases fault <;> decide

theorem ofText?_ne_absent (text : Text) : UnitKind.ofText? text ≠ .error .absent := by
  intro absent
  rw [UnitKind.ofText?] at absent
  split at absent
  · cases absent
  · split at absent
    · next sound =>
        cases absent
        exact fault?_ne_absent text sound
    · split at absent
      · next opened =>
          have opening : '[' ∈ text := by simpa using opened
          cases grouped : group? text with
          | ok group =>
              rw [grouped] at absent
              cases absent
          | error fault =>
              rw [grouped] at absent
              cases absent
              exact (group?_eq_absent_iff.mp grouped).not_mem rfl opening
      · cases absent

/-- The grammar of bracket groups. The check of a text comes to the verdict of the grammar, so that a text is valid
if and only if it has no bracket or is cut at its group, which can be done in one way and is what a search for the
first pair finds, whether or not the pair may be empty. The group that is found is that one, with its options split,
and it is found if and only if there is one. That a text has no group is said of texts without brackets, and never of a
unit that is read. -/
theorem brackets_by_grammar (text : Text) :
    (∀ verdict, validate text = verdict ↔ Verdict text verdict) ∧
      ((validate text).isValid = true ↔ IsFree text ∨ ∃ before raw after, IsGroup text before raw after) ∧
      (∀ before raw after before' raw' after', IsGroup text before raw after → IsGroup text before' raw' after' →
        before = before' ∧ raw = raw' ∧ after = after') ∧
      (∀ before raw after, IsGroup text before raw after →
        IsFirstPair 0 text before raw after ∧ IsFirstPair 1 text before raw after) ∧
      (∀ group, group? text = .ok group ↔
        IsGroup text group.before group.raw group.after ∧ group.options = splitOptions group.raw) ∧
      ((∃ fault, group? text = .error fault ∧ fault.message = "No bracket group found") ↔ IsFree text) ∧
      ∀ fault, UnitKind.ofText? text = .error fault → fault.message ≠ "No bracket group found" := by
  refine ⟨fun _ => validate_eq_iff, isValid_validate_iff, ?_, ?_, fun _ => group?_eq_ok_iff, ?_, ?_⟩
  · intro before raw after before' raw' after' group other
    exact group.toIsPair.unique other.toIsPair
  · intro before raw after group
    exact ⟨group.isFirstPair (Nat.zero_le 1), group.isFirstPair (Nat.le_refl 1)⟩
  · simp only [Fault.message_eq_absent_iff, exists_eq_right, group?_eq_absent_iff]
  · rintro fault refused absent
    rw [Fault.message_eq_absent_iff] at absent
    exact ofText?_ne_absent text (absent ▸ refused)

/-- A comma and blank characters around an option are let pass, and a pair the wrong way round is not. -/
theorem brackets_of_group_and_reversed :
    let text := "hot [ tea,\t] now".toList
    let group : Group := ⟨"hot ".toList, " now".toList, ["tea".toList], " tea,\t".toList⟩
    IsGroup text group.before group.raw group.after ∧ (validate text).isValid = true ∧ group? text = .ok group ∧
      validate "hot ] tea [ now".toList =
        { isValid := false
          error := some "Missing closing bracket ]"
          suggestion := some "Add ] after your options" } := by
  intro text group
  have before : IsFree "hot ".toList := by simp [IsFree, isBracket]
  have raw : IsFree " tea,\t".toList := by simp [IsFree, isBracket]
  have between : IsFree " tea ".toList := by simp [IsFree, isBracket]
  have after : IsFree " now".toList := by simp [IsFree, isBracket]
  have found : IsGroup text group.before group.raw group.after := ⟨⟨rfl, before, raw, after⟩, by decide⟩
  obtain ⟨_, valid, _, _, grouped, _⟩ := brackets_by_grammar text
  obtain ⟨judged, _⟩ := brackets_by_grammar "hot ] tea [ now".toList
  refine ⟨found, valid.mpr (Or.inr ⟨_, _, _, found⟩), (grouped group).mpr ⟨found, by decide⟩, ?_⟩
  exact (judged _).mpr (.reversed ⟨rfl, before, between, after⟩)

end PromptTemplate.Bracket
