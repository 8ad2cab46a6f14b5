import Mathlib
import PromptTemplate.Text.Basic

set_option autoImplicit false

namespace PromptTemplate.Text

/-- Blank characters stand outside of every run of word characters. -/
theorem not_isWordChar_of_isBlankChar {c : Char} (blank : isBlankChar c = true) :
    isWordChar c = false := by
  rw [Bool.eq_false_iff]
  intro word
  simp only [isBlankChar, blankRanges, List.any_cons, List.any_nil, Bool.or_eq_true, Bool.and_eq_true,
    decide_eq_true_eq, Bool.or_false] at blank
  simp only [isWordChar, Char.isAlphanum, Char.isAlpha, Char.isUpper, Char.isLower, Char.isDigit,
    Bool.or_eq_true, Bool.and_eq_true, decide_eq_true_eq, beq_iff_eq, UInt32.le_iff_toNat_le,
    ge_iff_le] at word
  have code : c.val.toNat = c.toNat := rfl
  rcases word with ((upper | lower) | digit) | rfl
  · change 65 ≤ c.val.toNat ∧ c.val.toNat ≤ 90 at upper
    omega
  · change 97 ≤ c.val.toNat ∧ c.val.toNat ≤ 122 at lower
    omega
  · change 48 ≤ c.val.toNat ∧ c.val.toNat ≤ 57 at digit
    omega
  · exact absurd blank (by decide)

theorem trimEnd_prefix (text : Text) : trimEnd text <+: text :=
  List.rdropWhile_prefix isBlankChar text

theorem exists_trim (text : Text) : ∃ before after, text = before ++ trim text ++ after ∧
    (∀ c ∈ before, isBlankChar c = true) ∧ ∀ c ∈ after, isBlankChar c = true := by
  refine ⟨text.takeWhile isBlankChar, (trimStart text).rtakeWhile isBlankChar, ?_, ?_, ?_⟩
  · have back : trim text ++ (trimStart text).rtakeWhile isBlankChar = trimStart text :=
      List.rdropWhile_append_rtakeWhile
    rw [List.append_assoc, back]
    exact List.takeWhile_append_dropWhile.symm
  · exact fun c member => List.mem_takeWhile_imp member
  · exact fun c member => List.mem_rtakeWhile_imp member

theorem not_isBlankChar_of_trimStart {text rest : Text} {c : Char} (trimmed : trimStart text = c :: rest) :
    isBlankChar c = false := by
  have first := List.head?_dropWhile_not isBlankChar text
  have rest : text.dropWhile isBlankChar = c :: rest := trimmed
  rw [rest] at first
  exact first

theorem trimStart_cons {c : Char} (inked : isBlankChar c = false) (rest : Text) :
    trimStart (c :: rest) = c :: rest :=
  List.dropWhile_cons_of_neg (by simp [inked])

theorem trimEnd_concat {c : Char} (inked : isBlankChar c = false) (text : Text) :
    trimEnd (text ++ [c]) = text ++ [c] :=
  List.rdropWhile_concat_neg isBlankChar text c (by simp [inked])

theorem trimStart_eq_self {text : Text} (begins : ∀ c ∈ text.head?, isBlankChar c = false) : trimStart text = text := by
  cases text with
  | nil => rfl
  | cons c rest => exact trimStart_cons (begins c rfl) rest

theorem trimStart_append (first second : Text) :
    trimStart (first ++ second) = if trimStart first = [] then trimStart second else trimStart first ++ second := by
  by_cases blank : List.dropWhile isBlankChar first = [] <;> simp [trimStart, List.dropWhile_append, blank]

theorem trimEnd_append (first second : Text) :
    trimEnd (first ++ second) = if trimEnd second = [] then trimEnd first else first ++ trimEnd second := by
  simp only [trimEnd, List.reverse_append, List.dropWhile_append, List.isEmpty_iff, List.reverse_eq_nil_iff]
  split
  · rfl
  · rw [List.reverse_append, List.reverse_reverse]

theorem trim_eq_nil_iff {text : Text} : trim text = [] ↔ ∀ c ∈ text, isBlankChar c = true := by
  constructor
  · intro empty
    obtain ⟨before, after, whole, leading, trailing⟩ := exists_trim text
    rw [whole, empty, List.append_nil]
    exact List.forall_mem_append.mpr ⟨leading, trailing⟩
  · intro blank
    have started : trimStart text = [] := List.dropWhile_eq_nil_iff.mpr blank
    rw [trim, started]
    rfl

@[simp] theorem trim_trim (text : Text) : trim (trim text) = trim text := by
  have kept : trimStart (trim text) = trim text := by
    cases trimmed : trim text with
    | nil => rfl
    | cons c rest =>
        obtain ⟨tail, whole⟩ := trimEnd_prefix (trimStart text)
        change trim text ++ tail = trimStart text at whole
        rw [trimmed] at whole
        exact trimStart_cons (not_isBlankChar_of_trimStart whole.symm) rest
  rw [trim, kept]
  exact List.rdropWhile_idempotent isBlankChar (trimStart text)

/-- Blank characters around a text are cut off with its own. -/
theorem trim_append_of_blank {before after : Text} (leading : ∀ c ∈ before, isBlankChar c = true) (text : Text)
    (trailing : ∀ c ∈ after, isBlankChar c = true) : trim (before ++ text ++ after) = trim text := by
  have started : trimStart (before ++ text ++ after) = trimStart (text ++ after) := by
    rw [List.append_assoc]
    exact List.dropWhile_append_of_pos leading
  have ended : ∀ kept : Text, trimEnd (kept ++ after) = trimEnd kept := by
    intro kept
    have back : ∀ c ∈ after.reverse, isBlankChar c = true := fun c member => trailing c (List.mem_reverse.mp member)
    rw [trimEnd, List.reverse_append, List.dropWhile_append_of_pos back, trimEnd]
  by_cases blank : ∀ c ∈ text, isBlankChar c = true
  · have whole := List.forall_mem_append.mpr ⟨List.forall_mem_append.mpr ⟨leading, blank⟩, trailing⟩
    rw [trim_eq_nil_iff.mpr blank, trim_eq_nil_iff.mpr whole]
  · have kept : trimStart (text ++ after) = trimStart text ++ after := by
      have present : ¬ (text.dropWhile isBlankChar).isEmpty = true := by
        rwa [List.isEmpty_iff, List.dropWhile_eq_nil_iff]
      rw [trimStart, List.dropWhile_append, if_neg present]
      rfl
    rw [trim, started, kept, ended, trim]

theorem trimEnd_eq_self_iff {text : Text} : trimEnd text = text ↔ ∀ c ∈ text.getLast?, isBlankChar c = false := by
  have ended : trimEnd text = text ↔ ∀ present : text ≠ [], ¬ isBlankChar (text.getLast present) = true :=
    List.rdropWhile_eq_self_iff
  rw [ended]
  rcases List.eq_nil_or_concat text with rfl | ⟨front, c, rfl⟩ <;> simp

/-- A text is trimmed if and only if it neither begins nor ends with a blank character. -/
theorem trim_eq_self_iff {text : Text} : trim text = text ↔
    (∀ c ∈ text.head?, isBlankChar c = false) ∧ ∀ c ∈ text.getLast?, isBlankChar c = false := by
  constructor
  · intro trimmed
    have front : trim text <+: trimStart text := trimEnd_prefix (trimStart text)
    have later : trimStart text <:+ text := List.dropWhile_suffix isBlankChar
    rw [trimmed] at front
    have started : trimStart text = text := later.eq_of_length (Nat.le_antisymm later.length_le front.length_le)
    have ended : trimEnd text = text := by
      rw [trim, started] at trimmed
      exact trimmed
    refine ⟨fun c first => ?_, trimEnd_eq_self_iff.mp ended⟩
    obtain ⟨rest, rfl⟩ := List.head?_eq_some_iff.mp first
    exact not_isBlankChar_of_trimStart started
  · rintro ⟨first, last⟩
    rw [trim, trimStart_eq_self first, trimEnd_eq_self_iff.mpr last]

/-- A text that is trimmed and not blank, as the entries of a checked catalog are. -/
structure IsTidy (text : Text) : Prop where
  trimmed : trim text = text
  nonempty : text ≠ []

namespace IsTidy

variable {text : Text}

theorem begins (tidy : IsTidy text) : ∀ c ∈ text.head?, isBlankChar c = false :=
  (trim_eq_self_iff.mp tidy.trimmed).1

theorem ends (tidy : IsTidy text) : ∀ c ∈ text.getLast?, isBlankChar c = false :=
  (trim_eq_self_iff.mp tidy.trimmed).2

/-- What stands around a tidy text is trimmed on the outer side only. -/
theorem trim_around (tidy : IsTidy text) (before after : Text) :
    trim (before ++ text ++ after) = trimStart before ++ text ++ trimEnd after := by
  have started : trimStart (before ++ (text ++ after)) = trimStart before ++ (text ++ after) := by
    have begins : ∀ c ∈ (text ++ after).head?, isBlankChar c = false := by
      rw [List.head?_append_of_ne_nil text tidy.nonempty]
      exact tidy.begins
    rw [trimStart_append]
    split
    · next empty => rw [empty, trimStart_eq_self begins, List.nil_append]
    · rfl
  have ended : ∀ kept, trimEnd (kept ++ text ++ after) = kept ++ text ++ trimEnd after := by
    intro kept
    have ends : ∀ c ∈ (kept ++ text).getLast?, isBlankChar c = false := by
      rw [List.getLast?_append_of_ne_nil kept tidy.nonempty]
      exact tidy.ends
    rw [trimEnd_append]
    split
    · next empty => rw [empty, trimEnd_eq_self_iff.mpr ends, List.append_nil]
    · rfl
  rw [trim, List.append_assoc, started, ← List.append_assoc, ended]

end IsTidy

theorem isTidy_of_mem_tidied {texts : List Text} {text : Text} (member : text ∈ tidied texts) :
    IsTidy text := by
  obtain ⟨among, present⟩ := List.mem_filter.mp member
  obtain ⟨original, _, rfl⟩ := List.mem_map.mp among
  exact ⟨trim_trim original, by simpa using present⟩

/-- Tidying leaves texts alone if and only if each of them is tidy. -/
theorem tidied_eq_self_iff {texts : List Text} : tidied texts = texts ↔ ∀ text ∈ texts, IsTidy text := by
  constructor
  · intro same text member
    rw [← same] at member
    exact isTidy_of_mem_tidied member
  · intro tidy
    have trimmed : texts.map trim = texts.map id :=
      List.map_congr_left fun text member => (tidy text member).trimmed
    rw [tidied, trimmed, List.map_id, List.filter_eq_self]
    intro text member
    simpa using (tidy text member).nonempty

theorem tidied_contentLines (text : Text) : tidied (contentLines text) = contentLines text :=
  tidied_eq_self_iff.mpr fun _ member => isTidy_of_mem_tidied member

end PromptTemplate.Text
