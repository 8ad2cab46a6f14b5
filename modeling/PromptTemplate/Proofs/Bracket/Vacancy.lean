import PromptTemplate.Bracket.Basic
import PromptTemplate.Proofs.Text.Splitting
import PromptTemplate.Proofs.Text.Trimming

set_option autoImplicit false

namespace PromptTemplate.Bracket

open Text (isBlankChar)

/-- No item of a list is left if and only if the list has nothing but commas and blank characters. -/
theorem splitOptions_eq_nil_iff {inner : Text} :
    splitOptions inner = [] ↔ ∀ c ∈ inner, c = ',' ∨ isBlankChar c = true := by
  rw [← Text.forall_mem_splitOn, splitOptions, List.filter_eq_nil_iff, List.forall_mem_map]
  simp only [Bool.not_eq_true', Bool.not_eq_false, List.isEmpty_iff, Text.trim_eq_nil_iff]

/-- A text cut where a predicate first fails. -/
theorem eq_of_dropWhile_eq_cons {kept : Char → Bool} {text rest : Text} {c : Char}
    (cut : text.dropWhile kept = c :: rest) :
    text = text.takeWhile kept ++ c :: rest ∧ kept c = false ∧ ∀ d ∈ text.takeWhile kept, kept d = true := by
  have first := List.head?_dropWhile_not kept text
  rw [cut] at first
  have whole : text.takeWhile kept ++ text.dropWhile kept = text := List.takeWhile_append_dropWhile
  rw [cut] at whole
  exact ⟨whole.symm, first, fun d member => List.mem_takeWhile_imp member⟩

/-- A text is cut at its first opening bracket and at the closing one behind it. -/
theorem cut?_eq_some_iff {text before inner after : Text} :
    cut? text = some (before, inner, after) ↔
      text = before ++ '[' :: (inner ++ ']' :: after) ∧ '[' ∉ before ∧ ∀ c ∈ inner, isBracket c = false := by
  constructor
  · intro cut
    simp only [cut?] at cut
    split at cut
    · cases cut
    · next first opened rest =>
        split at cut
        · next closed tail =>
            cases cut
            obtain ⟨whole, opening, outside⟩ := eq_of_dropWhile_eq_cons rest
            obtain ⟨inside, _, between⟩ := eq_of_dropWhile_eq_cons tail
            obtain rfl : first = '[' := by simpa using opening
            rw [← inside]
            refine ⟨whole, fun member => absurd (outside _ member) (by decide), ?_⟩
            exact fun c member => by simpa using between c member
        · cases cut
  · rintro ⟨rfl, unopened, inside⟩
    have outside : ∀ c ∈ before, (c != '[') = true := by
      intro c member
      rw [bne_iff_ne]
      rintro rfl
      exact unopened member
    have between : ∀ c ∈ inner, (!isBracket c) = true := by simpa using inside
    have opening : ('[' != '[') = false := rfl
    have closing : (!isBracket ']') = false := rfl
    simp only [cut?, List.dropWhile_append_of_pos outside, List.takeWhile_append_of_pos outside,
      List.dropWhile_cons, List.takeWhile_cons, List.dropWhile_append_of_pos between,
      List.takeWhile_append_of_pos between, opening, closing, Bool.false_eq_true, ↓reduceIte, List.append_nil]

theorem cut?_of_not_mem {text : Text} (unopened : '[' ∉ text) : cut? text = none := by
  rw [Option.eq_none_iff_forall_ne_some]
  rintro ⟨before, inner, after⟩ cut
  obtain ⟨rfl, _⟩ := cut?_eq_some_iff.mp cut
  exact unopened (by simp)

theorem forall_isBracket_eq_false_iff {text : Text} :
    (∀ c ∈ text, isBracket c = false) ↔ text.count '[' = 0 ∧ text.count ']' = 0 := by
  rw [List.count_eq_zero, List.count_eq_zero]
  constructor
  · intro outside
    exact ⟨fun member => absurd (outside _ member) (by decide), fun member => absurd (outside _ member) (by decide)⟩
  · rintro ⟨unopened, unclosed⟩ c member
    have first : c ≠ '[' := fun same => unopened (same ▸ member)
    have second : c ≠ ']' := fun same => unclosed (same ▸ member)
    simp [isBracket, first, second]

/-- A text cut at a pair of brackets that are its only ones, with commas and blank characters between them, and
a comma at least. -/
structure Vacancy (text before inner after : Text) : Prop where
  whole : text = before ++ '[' :: (inner ++ ']' :: after)
  outside : ∀ c ∈ before ++ after, isBracket c = false
  hollow : ∀ c ∈ inner, c = ',' ∨ isBlankChar c = true
  comma : ',' ∈ inner

/-- A text whose brackets hold no option, though they are in order and not blank. -/
def IsVacant (text : Text) : Prop :=
  ∃ before inner after, Vacancy text before inner after

/-- What a cut text has outside its pair of brackets, and how many brackets it has. -/
theorem count_of_cut {text before inner after : Text} (cut : cut? text = some (before, inner, after)) :
    text.count '[' = before.count '[' + after.count '[' + 1 ∧
      text.count ']' = before.count ']' + after.count ']' + 1 := by
  obtain ⟨rfl, _, between⟩ := cut?_eq_some_iff.mp cut
  obtain ⟨unopened, unclosed⟩ := forall_isBracket_eq_false_iff.mp between
  simp only [List.count_append, List.count_cons, unopened, unclosed]
  constructor <;> simp <;> omega

theorem fault?_of_cut {text before inner after : Text} (cut : cut? text = some (before, inner, after)) :
    fault? text = none ↔ (∀ c ∈ before ++ after, isBracket c = false) ∧ Text.isBlank inner = false := by
  obtain ⟨opens, closes⟩ := count_of_cut cut
  rw [forall_isBracket_eq_false_iff, List.count_append, List.count_append]
  have unopened : before.count '[' = 0 := List.count_eq_zero.mpr (cut?_eq_some_iff.mp cut).2.1
  simp only [fault?, cut, opens, closes]
  constructor
  · intro sound
    split_ifs at sound with fewer more several blank
    exact ⟨⟨by omega, by omega⟩, by simpa using blank⟩
  · rintro ⟨⟨outer, closed⟩, inked⟩
    rw [if_neg (by omega), if_neg (by omega), if_neg (by omega), inked]
    rfl

theorem exists_group_without_options_iff {text : Text} :
    (∃ group, group? text = .ok group ∧ group.options = []) ↔ IsVacant text := by
  constructor
  · rintro ⟨group, grouped, empty⟩
    cases sound : fault? text with
    | some fault =>
        rw [group?, sound] at grouped
        cases grouped
    | none =>
        cases cut : cut? text with
        | none =>
            simp only [group?, sound, cut] at grouped
            cases grouped
        | some parts =>
            obtain ⟨before, inner, after⟩ := parts
            simp only [group?, sound, cut] at grouped
            cases grouped
            obtain ⟨outside, inked⟩ := (fault?_of_cut cut).mp sound
            have hollow := splitOptions_eq_nil_iff.mp empty
            refine ⟨before, inner, after, (cut?_eq_some_iff.mp cut).1, outside, hollow, ?_⟩
            -- The check refuses blank text, so one character is not blank, and that one is a comma.
            obtain ⟨c, member, visible⟩ := List.all_eq_false.mp inked
            rcases hollow c member with rfl | blank
            · exact member
            · exact absurd blank visible
  · rintro ⟨before, inner, after, vacancy⟩
    have between : ∀ c ∈ inner, isBracket c = false := by
      intro c member
      rcases vacancy.hollow c member with rfl | blank
      · rfl
      · by_contra bracket
        rw [Bool.not_eq_false, isBracket, Bool.or_eq_true, beq_iff_eq, beq_iff_eq] at bracket
        rcases bracket with rfl | rfl <;> exact absurd blank (by decide)
    have unopened : '[' ∉ before := fun member =>
      absurd (vacancy.outside '[' (List.mem_append_left after member)) (by decide)
    have cut : cut? text = some (before, inner, after) := cut?_eq_some_iff.mpr ⟨vacancy.whole, unopened, between⟩
    have inked : Text.isBlank inner = false := List.all_eq_false.mpr ⟨',', vacancy.comma, by decide⟩
    have sound : fault? text = none := (fault?_of_cut cut).mpr ⟨vacancy.outside, inked⟩
    refine ⟨⟨before, after, splitOptions inner, inner⟩, ?_, splitOptions_eq_nil_iff.mpr vacancy.hollow⟩
    simp only [group?, sound, cut]

end PromptTemplate.Bracket
