import PromptTemplate.Text.Basic

set_option autoImplicit false

namespace PromptTemplate.Text

theorem splitOn_cons_separator (separator : Char) (text : Text) :
    splitOn separator (separator :: text) = [] :: splitOn separator text := by
  rw [splitOn, if_pos rfl]

/-- Any other character goes to the front of the first piece. -/
theorem splitOn_cons_other {separator c : Char} (other : c ≠ separator) (text : Text) :
    ∃ piece pieces, splitOn separator text = piece :: pieces ∧
      splitOn separator (c :: text) = (c :: piece) :: pieces := by
  rw [splitOn, if_neg other]
  cases rest : splitOn separator text with
  | nil => exact absurd rest (splitOn_ne_nil separator text)
  | cons piece pieces => exact ⟨piece, pieces, rfl, rfl⟩

theorem two_le_length_splitOn {separator : Char} {text : Text} (member : separator ∈ text) :
    2 ≤ (splitOn separator text).length := by
  induction text with
  | nil => cases member
  | cons c text ih =>
      by_cases same : c = separator
      · subst same
        have present := List.length_pos_iff.mpr (splitOn_ne_nil c text)
        rw [splitOn_cons_separator, List.length_cons]
        omega
      · obtain ⟨piece, pieces, before, after⟩ := splitOn_cons_other same text
        have later := ih ((List.mem_cons.mp member).resolve_left (Ne.symm same))
        rw [before] at later
        rw [after]
        exact later

/-- Every character but the last ends at most one piece. -/
theorem length_splitOn_le (separator : Char) (text : Text) : (splitOn separator text).length ≤ text.length + 1 := by
  induction text with
  | nil => exact Nat.le_refl 1
  | cons c text ih =>
      by_cases same : c = separator
      · subst same
        rw [splitOn_cons_separator, List.length_cons, List.length_cons]
        omega
      · obtain ⟨piece, pieces, before, after⟩ := splitOn_cons_other same text
        rw [before, List.length_cons] at ih
        rw [after, List.length_cons, List.length_cons]
        omega

theorem sublist_of_mem_splitOn {separator : Char} {text piece : Text} (member : piece ∈ splitOn separator text) :
    piece.Sublist text := by
  induction text generalizing piece with
  | nil =>
      obtain rfl : piece = [] := by simpa [splitOn] using member
      exact List.Sublist.refl []
  | cons c text ih =>
      by_cases same : c = separator
      · subst same
        rw [splitOn_cons_separator, List.mem_cons] at member
        rcases member with rfl | later
        · exact List.nil_sublist _
        · exact (ih later).cons c
      · obtain ⟨first, pieces, before, after⟩ := splitOn_cons_other same text
        rw [after, List.mem_cons] at member
        rw [before] at ih
        rcases member with rfl | later
        · exact (ih List.mem_cons_self).cons_cons c
        · exact (ih (List.mem_cons_of_mem first later)).cons c

theorem not_mem_of_mem_splitOn {separator : Char} {text piece : Text}
    (member : piece ∈ splitOn separator text) : separator ∉ piece := by
  induction text generalizing piece with
  | nil =>
      obtain rfl : piece = [] := by simpa [splitOn] using member
      exact List.not_mem_nil
  | cons c text ih =>
      by_cases same : c = separator
      · subst same
        rw [splitOn_cons_separator, List.mem_cons] at member
        rcases member with rfl | later
        · exact List.not_mem_nil
        · exact ih later
      · obtain ⟨first, pieces, before, after⟩ := splitOn_cons_other same text
        rw [after, List.mem_cons] at member
        rw [before] at ih
        rcases member with rfl | later
        · rw [List.mem_cons, not_or]
          exact ⟨Ne.symm same, ih List.mem_cons_self⟩
        · exact ih (List.mem_cons_of_mem first later)

theorem forall_mem_splitOn {separator : Char} {text : Text} {holds : Char → Prop} :
    (∀ piece ∈ splitOn separator text, ∀ c ∈ piece, holds c) ↔ ∀ c ∈ text, c = separator ∨ holds c := by
  induction text with
  | nil => simp [splitOn]
  | cons c text ih =>
      rw [List.forall_mem_cons, ← ih]
      by_cases same : c = separator
      · subst same
        simp [splitOn_cons_separator]
      · obtain ⟨piece, pieces, before, after⟩ := splitOn_cons_other same text
        simp [before, after, same, and_assoc]

theorem splitOn_of_not_mem {separator : Char} {text : Text} (absent : separator ∉ text) :
    splitOn separator text = [text] := by
  induction text with
  | nil => rfl
  | cons c text ih =>
      rw [List.mem_cons, not_or] at absent
      rw [splitOn, if_neg (Ne.symm absent.1), ih absent.2]

theorem splitOn_append_cons (separator : Char) (before after : Text) :
    splitOn separator (before ++ separator :: after) = splitOn separator before ++ splitOn separator after := by
  induction before with
  | nil => exact splitOn_cons_separator separator after
  | cons c before ih =>
      by_cases same : c = separator
      · rw [List.cons_append, same, splitOn_cons_separator, splitOn_cons_separator, ih, List.cons_append]
      · obtain ⟨piece, pieces, split, longer⟩ := splitOn_cons_other same before
        rw [split] at ih
        rw [List.cons_append, splitOn, if_neg same, ih, longer]
        rfl

/-- What stands before the first separator is the first piece. -/
theorem splitOn_append {separator : Char} {piece : Text} (absent : separator ∉ piece) (rest : Text) :
    splitOn separator (piece ++ separator :: rest) = piece :: splitOn separator rest := by
  rw [splitOn_append_cons, splitOn_of_not_mem absent, List.singleton_append]

theorem join_cons_cons (separator first second : Text) (rest : List Text) :
    join separator (first :: second :: rest) = first ++ separator ++ join separator (second :: rest) := by
  simp [join, List.intersperse]

/-- A character at the front of the first piece is at the front of the whole. -/
theorem join_cons_append (separator : Text) (c : Char) (piece : Text) (pieces : List Text) :
    join separator ((c :: piece) :: pieces) = c :: join separator (piece :: pieces) := by
  cases pieces with
  | nil => simp [join]
  | cons second rest => simp only [join_cons_cons, List.cons_append]

theorem forall_mem_join {separator : Text} {pieces : List Text} {holds : Char → Prop}
    (between : ∀ c ∈ separator, holds c) (each : ∀ piece ∈ pieces, ∀ c ∈ piece, holds c) :
    ∀ c ∈ join separator pieces, holds c := by
  induction pieces with
  | nil => simp [join]
  | cons piece rest ih =>
      rw [List.forall_mem_cons] at each
      cases rest with
      | nil => simpa [join] using each.1
      | cons second others =>
          rw [join_cons_cons, List.forall_mem_append, List.forall_mem_append]
          exact ⟨⟨each.1, between⟩, ih each.2⟩

theorem join_splitOn (separator : Char) (text : Text) :
    join [separator] (splitOn separator text) = text := by
  induction text with
  | nil => rfl
  | cons c text ih =>
      by_cases same : c = separator
      · subst same
        obtain ⟨piece, pieces, split⟩ := List.exists_cons_of_ne_nil (splitOn_ne_nil c text)
        rw [splitOn_cons_separator, split, join_cons_cons, ← split, ih]
        rfl
      · obtain ⟨piece, pieces, before, after⟩ := splitOn_cons_other same text
        rw [after, join_cons_append, ← before, ih]

theorem splitOn_join {separator : Char} {pieces : List Text} (present : pieces ≠ [])
    (absent : ∀ piece ∈ pieces, separator ∉ piece) : splitOn separator (join [separator] pieces) = pieces := by
  induction pieces with
  | nil => exact absurd rfl present
  | cons first rest ih =>
      rw [List.forall_mem_cons] at absent
      cases rest with
      | nil => simpa [join] using splitOn_of_not_mem absent.1
      | cons second others =>
          rw [join_cons_cons, List.append_assoc, List.singleton_append, splitOn_append absent.1,
            ih (List.cons_ne_nil second others) absent.2]

theorem trim_sublist (text : Text) : (trim text).Sublist text := by
  have ended : (trimEnd (trimStart text)).Sublist (trimStart text) := by
    rw [← List.reverse_sublist, trimEnd, List.reverse_reverse]
    exact List.dropWhile_sublist isBlankChar
  exact ended.trans (List.dropWhile_sublist isBlankChar)

theorem mem_of_mem_trim {c : Char} {text : Text} (member : c ∈ trim text) : c ∈ text :=
  (trim_sublist text).subset member

end PromptTemplate.Text
