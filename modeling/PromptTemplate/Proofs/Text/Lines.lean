import PromptTemplate.Proofs.Text.Splitting
import PromptTemplate.Proofs.Text.Trimming
import PromptTemplate.Text.Basic

set_option autoImplicit false

namespace PromptTemplate.Text

/-- A break ends an empty line. A carriage return takes the line feed behind it along. -/
theorem lines_cons_of_break {c : Char} (broken : isLineBreak c = true) {rest : Text}
    (apart : c ≠ '\r' ∨ rest.head? ≠ some '\n') : lines (c :: rest) = [] :: lines rest := by
  rw [lines.eq_def]
  split
  · next empty => cases empty
  · next tail both =>
      cases both
      rcases apart with other | other <;> exact absurd rfl other
  · next single =>
      cases single
      rw [if_pos broken]

/-- Any other character stands in front of the first line. -/
theorem lines_cons_of_unbroken {c : Char} (unbroken : isLineBreak c = false) (rest : Text) :
    lines (c :: rest) = (c :: (lines rest).headD []) :: (lines rest).tail := by
  rw [lines.eq_def]
  split
  · next empty => cases empty
  · next tail both =>
      cases both
      cases unbroken
  · next single =>
      cases single
      rw [if_neg (by simp [unbroken])]
      cases lines rest <;> rfl

theorem lines_of_unbroken {text : Text} (unbroken : ∀ c ∈ text, isLineBreak c = false) (present : text ≠ []) :
    lines text = [text] := by
  induction text with
  | nil => exact absurd rfl present
  | cons c rest ih =>
      rw [List.forall_mem_cons] at unbroken
      rw [lines_cons_of_unbroken unbroken.1]
      cases rest with
      | nil => rfl
      | cons d others =>
          rw [ih unbroken.2 (List.cons_ne_nil d others)]
          rfl

/-- What stands before the first break is the first line. -/
theorem lines_append_newline {text : Text} (unbroken : ∀ c ∈ text, isLineBreak c = false) (rest : Text) :
    lines (text ++ '\n' :: rest) = text :: lines rest := by
  induction text with
  | nil => rfl
  | cons c text ih =>
      rw [List.forall_mem_cons] at unbroken
      rw [List.cons_append, lines_cons_of_unbroken unbroken.1, ih unbroken.2]
      rfl

theorem not_isLineBreak_of_mem_lines (text : Text) : ∀ line ∈ lines text, ∀ c ∈ line, isLineBreak c = false := by
  fun_induction lines text with
  | case1 => exact List.forall_mem_nil _
  | case2 rest ih => exact List.forall_mem_cons.mpr ⟨List.forall_mem_nil _, ih⟩
  | case3 c rest _ broken ih => exact List.forall_mem_cons.mpr ⟨List.forall_mem_nil _, ih⟩
  | case4 c rest _ unbroken none ih => simpa using unbroken
  | case5 c rest _ unbroken line others found ih =>
      rw [found, List.forall_mem_cons] at ih
      exact List.forall_mem_cons.mpr ⟨List.forall_mem_cons.mpr ⟨Bool.eq_false_iff.mpr unbroken, ih.1⟩, ih.2⟩

/-- Line ends may be written as line feeds before a text is cut into lines. -/
theorem lines_normaliseBreaks (text : Text) : lines (normaliseBreaks text) = lines text := by
  fun_induction normaliseBreaks text with
  | case1 => rfl
  | case2 rest ih =>
      rw [lines_cons_of_break (by decide) (.inl (by decide)), ih]
      rfl
  | case3 c rest single ih =>
      by_cases returned : c = '\r'
      · subst returned
        have apart : rest.head? ≠ some '\n' := by
          intro fed
          obtain ⟨tail, rfl⟩ := List.head?_eq_some_iff.mp fed
          exact single tail rfl rfl
        rw [if_pos rfl, lines_cons_of_break (by decide) (.inl (by decide)), ih,
          lines_cons_of_break (by decide) (.inr apart)]
      · rw [if_neg returned]
        cases broken : isLineBreak c with
        | true =>
            rw [lines_cons_of_break broken (.inl returned), lines_cons_of_break broken (.inl returned), ih]
        | false => rw [lines_cons_of_unbroken broken, lines_cons_of_unbroken broken, ih]

theorem tidied_cons (text : Text) (texts : List Text) : tidied (text :: texts) = tidied [text] ++ tidied texts := by
  simp only [tidied, List.map_cons, List.map_nil, List.filter_cons, List.filter_nil]
  split <;> rfl

/-- The content lines of a text that is put together of lines are these lines, tidied. Whether an empty last one ends a
line does not matter, as blank lines are left out. -/
theorem contentLines_join {texts : List Text} (unbroken : ∀ text ∈ texts, ∀ c ∈ text, isLineBreak c = false) :
    contentLines (join ['\n'] texts) = tidied texts := by
  rw [contentLines]
  induction texts with
  | nil => rfl
  | cons text rest ih =>
      rw [List.forall_mem_cons] at unbroken
      cases rest with
      | nil =>
          have single : join ['\n'] [text] = text := by simp [join]
          rw [single]
          by_cases empty : text = []
          · rw [empty]
            rfl
          · rw [lines_of_unbroken unbroken.1 empty]
      | cons second others =>
          rw [join_cons_cons, List.append_assoc, List.singleton_append, lines_append_newline unbroken.1,
            tidied_cons, ih unbroken.2, ← tidied_cons]

theorem not_isLineBreak_of_mem_contentLines {text line : Text} (member : line ∈ contentLines text) :
    ∀ c ∈ line, isLineBreak c = false := by
  obtain ⟨original, among, rfl⟩ := List.mem_map.mp (List.mem_filter.mp member).1
  exact fun c inside => not_isLineBreak_of_mem_lines text original among c (mem_of_mem_trim inside)

theorem contentLines_normaliseBreaks (text : Text) : contentLines (normaliseBreaks text) = contentLines text := by
  rw [contentLines, lines_normaliseBreaks, contentLines]

end PromptTemplate.Text
