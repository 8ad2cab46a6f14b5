import Mathlib.Data.List.TakeWhile
import PromptTemplate.Reference

set_option autoImplicit false

namespace PromptTemplate.Reference

open Text (isWordChar)

@[simp] theorem pieces_nil : pieces [] = [] := by
  rw [pieces]

theorem pieces_cons_of_ne {c : Char} (other : c ≠ '_') (rest : Text) :
    pieces (c :: rest) = .literal c :: pieces rest := by
  rw [pieces, if_neg other]

theorem pieces_of_opened {rest name after : Text} (found : opened? rest = some (name, after)) :
    pieces ('_' :: rest) = .reference name :: pieces after := by
  rw [pieces, if_pos rfl]
  split
  · next opened =>
      rw [found] at opened
      cases opened
      rfl
  · next closed =>
      rw [found] at closed
      cases closed

theorem pieces_of_unopened {rest : Text} (absent : opened? rest = none) :
    pieces ('_' :: rest) = .literal '_' :: pieces rest := by
  rw [pieces, if_pos rfl]
  split
  · next opened =>
      rw [absent] at opened
      cases opened
  · rfl

theorem cutLast_eq_none_iff {text : Text} : cutLast text = none ↔ '_' ∉ text := by
  induction text with
  | nil => simp [cutLast]
  | cons c rest ih =>
      simp only [cutLast]
      cases later : cutLast rest with
      | some cut => simp [mt ih.mpr (by simp [later])]
      | none =>
          have absent := ih.mp later
          by_cases underscore : c = '_'
          · simp [underscore]
          · simp [underscore, absent, Ne.symm underscore]

theorem not_mem_of_cutLast {text before after : Text} (cut : cutLast text = some (before, after)) : '_' ∉ after := by
  induction text generalizing before with
  | nil => cases cut
  | cons c rest ih =>
      simp only [cutLast] at cut
      cases later : cutLast rest with
      | some inner =>
          rw [later] at cut
          cases cut
          exact ih later
      | none =>
          rw [later] at cut
          by_cases underscore : c = '_'
          · rw [if_pos underscore] at cut
            cases cut
            exact cutLast_eq_none_iff.mp later
          · rw [if_neg underscore] at cut
            cases cut

theorem cutLast_append {after : Text} (absent : '_' ∉ after) (before : Text) :
    cutLast (before ++ '_' :: after) = some (before, after) := by
  induction before with
  | nil => simp only [List.nil_append, cutLast, cutLast_eq_none_iff.mpr absent, ↓reduceIte]
  | cons c before ih => simp only [List.cons_append, cutLast, ih]

/-- Characters before the first underscore are literal. -/
theorem pieces_append_of_not_mem {text : Text} (absent : '_' ∉ text) (rest : Text) :
    pieces (text ++ rest) = text.map .literal ++ pieces rest := by
  induction text with
  | nil => rfl
  | cons c text ih =>
      rw [List.mem_cons, not_or] at absent
      rw [List.cons_append, pieces_cons_of_ne (Ne.symm absent.1), ih absent.2]
      rfl

theorem pieces_of_not_mem {text : Text} (absent : '_' ∉ text) : pieces text = text.map .literal := by
  have whole := pieces_append_of_not_mem absent []
  rwa [List.append_nil, pieces_nil, List.append_nil] at whole

/-- No reference is opened before a text with an underscore at its front at most. -/
theorem opened?_of_not_mem_tail {rest : Text} (absent : '_' ∉ rest.tail) : opened? rest = none := by
  cases rest with
  | nil => rfl
  | cons c rest =>
      have uncut : cutLast (rest.takeWhile isWordChar) = none :=
        cutLast_eq_none_iff.mpr fun member => absent ((List.takeWhile_prefix isWordChar).subset member)
      by_cases kept : isWordChar c = true
      · rw [opened?, List.takeWhile_cons_of_pos kept]
        by_cases underscore : c = '_' <;> simp only [cutLast, uncut, underscore, ↓reduceIte]
      · rw [opened?, List.takeWhile_cons_of_neg kept, cutLast]

theorem pieces_of_not_mem_tail {text : Text} (absent : '_' ∉ text.tail) :
    pieces text = text.map .literal := by
  cases text with
  | nil => exact pieces_nil
  | cons c rest =>
      rw [List.tail_cons] at absent
      rw [List.map_cons, ← pieces_of_not_mem absent]
      by_cases underscore : c = '_'
      · subst underscore
        exact pieces_of_unopened (opened?_of_not_mem_tail fun member => absent (List.mem_of_mem_tail member))
      · exact pieces_cons_of_ne underscore rest

/-- A reference closes at the last underscore of its run. -/
theorem opened?_of_last {name after : Text} (nonempty : name ≠ [])
    (word : ∀ c ∈ name ++ '_' :: after, isWordChar c = true) (absent : '_' ∉ after) :
    opened? (name ++ '_' :: after) = some (name, after) := by
  obtain ⟨c, tail, rfl⟩ := List.exists_cons_of_ne_nil nonempty
  have run := List.takeWhile_eq_self_iff.mpr word
  have behind := List.dropWhile_eq_nil_iff.mpr word
  simp only [opened?, run, behind, cutLast_append absent, List.append_nil]

theorem ne_underscore_of_not_isWordChar {c : Char} (other : isWordChar c = false) : c ≠ '_' := by
  rintro rfl
  cases other

/-- What stands behind a character that is no word character does not matter for a reference before it. -/
theorem opened?_append {c : Char} (other : isWordChar c = false) (text rest : Text) :
    opened? (text ++ c :: rest) =
      (opened? text).map fun found => (found.1, found.2 ++ c :: rest) := by
  have run : (text ++ c :: rest).takeWhile isWordChar = text.takeWhile isWordChar := by
    rw [List.takeWhile_append]
    split
    · next whole => rw [List.takeWhile_cons_of_neg (by simp [other]), List.append_nil,
        (List.takeWhile_prefix isWordChar).eq_of_length whole]
    · rfl
  have tail : (text ++ c :: rest).dropWhile isWordChar = text.dropWhile isWordChar ++ c :: rest := by
    have left : text.takeWhile isWordChar ++ (text ++ c :: rest).dropWhile isWordChar =
        text.takeWhile isWordChar ++ (text.dropWhile isWordChar ++ c :: rest) := by
      rw [← List.append_assoc, List.takeWhile_append_dropWhile, ← run, List.takeWhile_append_dropWhile]
    exact List.append_cancel_left left
  simp only [opened?, run, tail]
  split
  · simp
  · rfl

theorem pieces_append_cons {c : Char} (other : isWordChar c = false) (text rest : Text) :
    pieces (text ++ c :: rest) = pieces text ++ .literal c :: pieces rest := by
  match text with
  | [] =>
      rw [List.nil_append, pieces_cons_of_ne (ne_underscore_of_not_isWordChar other), pieces_nil]
      rfl
  | d :: text =>
      rw [List.cons_append]
      by_cases underscore : d = '_'
      · subst underscore
        have reading := opened?_append other text rest
        cases found : opened? text with
        | none =>
            rw [found] at reading
            rw [pieces_of_unopened reading, pieces_of_unopened found, pieces_append_cons other text rest]
            rfl
        | some reference =>
            obtain ⟨name, after⟩ := reference
            rw [found] at reading
            have shorter := length_lt_of_opened? found
            rw [pieces_of_opened reading, pieces_of_opened found, pieces_append_cons other after rest]
            rfl
      · rw [pieces_cons_of_ne underscore, pieces_cons_of_ne underscore,
          pieces_append_cons other text rest]
        rfl
termination_by text.length
decreasing_by
  all_goals simp only [List.length_cons]
  all_goals omega

/-- A text can be read in two parts if no two word characters meet at the cut. -/
theorem pieces_append {left right : Text}
    (parted : ∀ a ∈ left.getLast?, ∀ c ∈ right.head?, isWordChar a = true → isWordChar c = false) :
    pieces (left ++ right) = pieces left ++ pieces right := by
  rcases List.eq_nil_or_concat left with rfl | ⟨before, a, rfl⟩
  · rw [List.nil_append, pieces_nil, List.nil_append]
  · rw [List.concat_eq_append] at parted ⊢
    cases right with
    | nil => rw [List.append_nil, pieces_nil, List.append_nil]
    | cons c rest =>
        have apart := parted a (by simp) c (by simp)
        cases kept : isWordChar a with
        | true =>
            have other := apart kept
            rw [pieces_append_cons other, pieces_cons_of_ne (ne_underscore_of_not_isWordChar other)]
        | false =>
            have single := pieces_append_cons kept before []
            rw [List.append_assoc, List.singleton_append, pieces_append_cons kept, single, pieces_nil,
              List.append_assoc, List.singleton_append]

theorem matched?_eq_none {text : Text} {longest : Nat}
    (open? : ∀ length, 0 < length → length ≤ longest → text[length]? ≠ some '_') : matched? text longest = none := by
  induction longest with
  | zero => rfl
  | succ longest ih =>
      rw [matched?, if_neg (open? (longest + 1) (Nat.succ_pos longest) (Nat.le_refl _))]
      exact ih fun length positive le => open? length positive (Nat.le_succ_of_le le)

theorem matched?_of_last {name after : Text} {longest : Nat} (nonempty : name ≠ []) (reach : name.length ≤ longest)
    (last : ∀ length, name.length < length → length ≤ longest → (name ++ '_' :: after)[length]? ≠ some '_') :
    matched? (name ++ '_' :: after) longest = some (name, after) := by
  induction longest with
  | zero => exact absurd (List.length_eq_zero_iff.mp (Nat.le_zero.mp reach)) nonempty
  | succ longest ih =>
      rw [matched?]
      by_cases whole : name.length = longest + 1
      · have next : longest + 2 = name.length + 1 := by omega
        rw [next, ← whole]
        simp [List.drop_append]
      · rw [if_neg (last (longest + 1) (by omega) (Nat.le_refl _))]
        exact ih (by omega) fun length longer le => last length longer (by omega)

/-- No underscore stands behind a run of word characters. -/
theorem getElem?_of_run {text : Text} {length : Nat} (le : length ≤ (text.takeWhile isWordChar).length)
    (found : text[length]? = some '_') : (text.takeWhile isWordChar)[length]? = some '_' := by
  have split := List.takeWhile_append_dropWhile (p := isWordChar) (l := text)
  generalize run : text.takeWhile isWordChar = before at *
  rcases Nat.lt_or_eq_of_le le with inside | rfl
  · rwa [← split, List.getElem?_append_left inside] at found
  · rw [← split, List.getElem?_append_right (Nat.le_refl _), Nat.sub_self, ← List.head?_eq_getElem?] at found
    have outside := List.head?_dropWhile_not isWordChar text
    rw [found] at outside
    exact absurd outside (by decide)

/-- A reference is what the pattern matches, which tries the lengths of the run of word characters from the longest
down. -/
theorem opened?_eq_matched? (text : Text) :
    opened? text = matched? text (text.takeWhile isWordChar).length := by
  have behind : ∀ length, length ≤ (text.takeWhile isWordChar).length → text[length]? = some '_' →
      (text.takeWhile isWordChar)[length]? = some '_' := fun length => getElem?_of_run
  have split := List.takeWhile_append_dropWhile (p := isWordChar) (l := text)
  rw [opened?]
  generalize text.takeWhile isWordChar = run at *
  generalize text.dropWhile isWordChar = rest at *
  cases cut : cutLast run with
  | none =>
      refine (matched?_eq_none fun length _ le found => ?_).symm
      exact cutLast_eq_none_iff.mp cut (List.mem_of_getElem? (behind length le found))
  | some halves =>
      obtain ⟨before, after⟩ := halves
      have absent := not_mem_of_cutLast cut
      obtain rfl := cutLast_eq_some cut
      -- Behind the last underscore of the run there is no other one.
      have last : ∀ length, before.length < length → length ≤ (before ++ '_' :: after).length →
          text[length]? ≠ some '_' := by
        intro length longer le found
        have inside := behind length le found
        rw [List.getElem?_append_right (by omega), List.getElem?_cons, if_neg (by omega)] at inside
        exact absent (List.mem_of_getElem? inside)
      cases before with
      | nil => exact (matched?_eq_none fun length positive le => last length positive le).symm
      | cons c name =>
          obtain rfl : text = (c :: name) ++ '_' :: (after ++ rest) := by
            rw [← split, List.append_assoc]
            rfl
          have reach : (c :: name).length ≤ ((c :: name) ++ '_' :: after).length := by
            rw [List.length_append]
            omega
          exact (matched?_of_last (List.cons_ne_nil c name) reach last).symm

end PromptTemplate.Reference
