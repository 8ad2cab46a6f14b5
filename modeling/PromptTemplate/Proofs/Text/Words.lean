import Mathlib
import PromptTemplate.Proofs.Text.Runs
import PromptTemplate.Proofs.Text.Splitting
import PromptTemplate.Proofs.Text.Trimming

set_option autoImplicit false

namespace PromptTemplate.Text

/-- The text with one space in place of every maximal blank run. -/
def spaceRuns (text : Text) : Text :=
  (text.splitBy fun a b => isBlankChar a == isBlankChar b).flatMap fun run => if isBlank run then [' '] else run

/-- The words of a text: what stands between its blank characters, without the empty pieces. -/
def words (text : Text) : List Text :=
  (text.splitOnP isBlankChar).filter (!·.isEmpty)

/-- What a text comes to when its white space is collapsed. -/
structure CollapsesTo (text collapsed : Text) : Prop where
  spaced : collapsed = trim (spaceRuns text)
  joined : collapsed = join [' '] (words text)
  words_kept : words collapsed = words text
  settled : trim (spaceRuns collapsed) = collapsed

/-! ### Blank runs -/

theorem squeeze_cons_inked (inRun : Bool) {c : Char} (inked : isBlankChar c = false) (rest : Text) :
    squeeze inRun (c :: rest) = c :: squeeze false rest := by
  simp only [squeeze, inked, Bool.false_eq_true, ↓reduceIte]

theorem squeeze_false_cons_blank {c : Char} (blank : isBlankChar c = true) (rest : Text) :
    squeeze false (c :: rest) = ' ' :: squeeze true rest := by
  simp only [squeeze, blank, Bool.false_eq_true, ↓reduceIte]

theorem squeeze_true_cons_blank {c : Char} (blank : isBlankChar c = true) (rest : Text) :
    squeeze true (c :: rest) = squeeze true rest := by
  simp only [squeeze, blank, ↓reduceIte]

/-- The flag only matters for a text that begins with a blank character. -/
theorem squeeze_eq_of_head {text : Text} (begins : ∀ c ∈ text.head?, isBlankChar c = false) (inRun : Bool) :
    squeeze inRun text = squeeze false text := by
  cases text with
  | nil => rfl
  | cons c rest => rw [squeeze_cons_inked inRun (begins c rfl), squeeze_cons_inked false (begins c rfl)]

theorem squeeze_of_inked {text : Text} (inked : ∀ c ∈ text, isBlankChar c = false) (inRun : Bool) :
    squeeze inRun text = text := by
  induction text generalizing inRun with
  | nil => rfl
  | cons c rest ih =>
      rw [List.forall_mem_cons] at inked
      rw [squeeze_cons_inked inRun inked.1, ih inked.2]

theorem squeeze_true_of_blank {text : Text} (blank : ∀ c ∈ text, isBlankChar c = true) : squeeze true text = [] := by
  induction text with
  | nil => rfl
  | cons c rest ih =>
      rw [List.forall_mem_cons] at blank
      rw [squeeze_true_cons_blank blank.1, ih blank.2]

/-- Behind a text the flag is that of its last character. -/
theorem squeeze_append (inRun : Bool) (first second : Text) :
    squeeze inRun (first ++ second) =
      squeeze inRun first ++ squeeze (first.foldl (fun _ c => isBlankChar c) inRun) second := by
  induction first generalizing inRun with
  | nil => rfl
  | cons c rest ih =>
      rw [List.cons_append, List.foldl_cons]
      cases blank : isBlankChar c with
      | false => rw [squeeze_cons_inked inRun blank, squeeze_cons_inked inRun blank, ih, List.cons_append]
      | true =>
          cases inRun with
          | false => rw [squeeze_false_cons_blank blank, squeeze_false_cons_blank blank, ih, List.cons_append]
          | true => rw [squeeze_true_cons_blank blank, squeeze_true_cons_blank blank, ih]

theorem squeeze_append_of_head (inRun : Bool) (first : Text) {second : Text}
    (begins : ∀ c ∈ second.head?, isBlankChar c = false) :
    squeeze inRun (first ++ second) = squeeze inRun first ++ squeeze false second := by
  rw [squeeze_append, squeeze_eq_of_head begins]

theorem squeeze_append_of_last (inRun : Bool) {first : Text} (present : first ≠ [])
    (ends : ∀ c ∈ first.getLast?, isBlankChar c = false) (second : Text) :
    squeeze inRun (first ++ second) = squeeze inRun first ++ squeeze false second := by
  rcases List.eq_nil_or_concat first with rfl | ⟨front, c, rfl⟩
  · exact absurd rfl present
  · have inked : isBlankChar c = false := ends c (by simp)
    rw [squeeze_append, List.concat_eq_append, List.foldl_append, List.foldl_cons, List.foldl_nil, inked]

theorem squeeze_flatten {runs : List Text} (nonempty : [] ∉ runs)
    (uniform : ∀ run ∈ runs, ∀ a ∈ run, ∀ b ∈ run, isBlankChar a = isBlankChar b)
    (parted : runs.IsChain fun left right => ∃ occupied present,
      (isBlankChar (left.getLast occupied) == isBlankChar (right.head present)) = false) :
    squeeze false runs.flatten = runs.flatMap fun run => if isBlank run then [' '] else run := by
  induction runs with
  | nil => rfl
  | cons run rest ih =>
      rw [List.mem_cons, not_or] at nonempty
      rw [List.forall_mem_cons] at uniform
      obtain ⟨next, others⟩ := List.isChain_cons.mp parted
      obtain ⟨c, tail, rfl⟩ := List.exists_cons_of_ne_nil (Ne.symm nonempty.1)
      have alike := uniform.1 c List.mem_cons_self
      rw [List.flatten_cons, List.flatMap_cons, ← ih nonempty.2 uniform.2 others]
      cases blank : isBlankChar c with
      | true =>
          have all : ∀ d ∈ c :: tail, isBlankChar d = true := fun d member => (alike d member).symm.trans blank
          have begins : ∀ d ∈ rest.flatten.head?, isBlankChar d = false := by
            intro d first
            cases rest with
            | nil => cases first
            | cons second later =>
                obtain ⟨occupied, present, differ⟩ := next second rfl
                obtain ⟨e, others, rfl⟩ := List.exists_cons_of_ne_nil present
                obtain rfl : e = d := by simpa using first
                rw [all _ (List.getLast_mem occupied)] at differ
                simpa using differ
          have judged : isBlank (c :: tail) = true := List.all_eq_true.mpr all
          rw [squeeze_append_of_head false _ begins, squeeze_false_cons_blank blank,
            squeeze_true_of_blank (List.forall_mem_cons.mp all).2, if_pos judged]
      | false =>
          have all : ∀ d ∈ c :: tail, isBlankChar d = false := fun d member => (alike d member).symm.trans blank
          have ends : ∀ d ∈ (c :: tail).getLast?, isBlankChar d = false :=
            fun d last => all d (List.mem_of_mem_getLast? last)
          have judged : ¬ isBlank (c :: tail) = true := by simp [isBlank, blank]
          rw [squeeze_append_of_last false (List.cons_ne_nil c tail) ends, squeeze_of_inked all, if_neg judged]

/-- Squeezing is writing one space for every maximal blank run. -/
theorem squeeze_eq_spaceRuns (text : Text) : squeeze false text = spaceRuns text := by
  have runs := squeeze_flatten (List.nil_notMem_splitBy _ text)
    (fun run member => kind_eq_of_isChain (List.isChain_of_mem_splitBy member))
    (List.isChain_getLast_head_splitBy (fun a b => isBlankChar a == isBlankChar b) text)
  rwa [List.flatten_splitBy] at runs

/-! ### Words -/

theorem words_append_cons {c : Char} (blank : isBlankChar c = true) (before after : Text) :
    words (before ++ c :: after) = words before ++ words after := by
  rw [words, List.splitOnP_append_cons before after blank, List.filter_append]
  rfl

theorem words_cons_blank {c : Char} (blank : isBlankChar c = true) (rest : Text) : words (c :: rest) = words rest :=
  words_append_cons blank [] rest

theorem words_of_inked {word : Text} (nonempty : word ≠ []) (inked : ∀ c ∈ word, isBlankChar c = false) :
    words word = [word] := by
  rw [words, List.splitOnP_eq_singleton inked]
  simp [nonempty]

/-- A character that is not blank is a word of its own, or goes to the front of the word that begins behind it. -/
theorem words_cons_inked {c : Char} (inked : isBlankChar c = false) (rest : Text) :
    (∀ d ∈ rest.head?, isBlankChar d = true) ∧ words (c :: rest) = [c] :: words rest ∨
      (∀ d ∈ rest.head?, isBlankChar d = false) ∧
        ∃ word others, words rest = word :: others ∧ words (c :: rest) = (c :: word) :: others := by
  have single : words [c] = [[c]] := words_of_inked (List.cons_ne_nil c []) (by simpa using inked)
  cases rest with
  | nil => exact Or.inl ⟨by simp, single⟩
  | cons d tail =>
      cases next : isBlankChar d with
      | true =>
          have parted : words (c :: d :: tail) = words [c] ++ words tail := words_append_cons next [c] tail
          exact Or.inl ⟨by simpa using next, by rw [parted, single, words_cons_blank next, List.singleton_append]⟩
      | false =>
          obtain ⟨piece, pieces, split⟩ := List.exists_cons_of_ne_nil (List.splitOnP_ne_nil isBlankChar tail)
          refine Or.inr ⟨by simpa using next, d :: piece, pieces.filter (!·.isEmpty), ?_, ?_⟩
          · simp [words, List.splitOnP_cons_eq_if_modifyHead, next, split]
          · simp [words, List.splitOnP_cons_eq_if_modifyHead, inked, next, split]

theorem inked_of_mem_words {text word : Text} (member : word ∈ words text) :
    word ≠ [] ∧ ∀ c ∈ word, isBlankChar c = false := by
  induction text generalizing word with
  | nil => cases member
  | cons c rest ih =>
      cases blank : isBlankChar c with
      | true =>
          rw [words_cons_blank blank] at member
          exact ih member
      | false =>
          rcases words_cons_inked blank rest with ⟨_, parted⟩ | ⟨_, first, others, whole, longer⟩
          · rw [parted, List.mem_cons] at member
            rcases member with rfl | later
            · exact ⟨List.cons_ne_nil c [], List.forall_mem_singleton.mpr blank⟩
            · exact ih later
          · rw [longer, List.mem_cons] at member
            rw [whole] at ih
            rcases member with rfl | later
            · exact ⟨List.cons_ne_nil c first, List.forall_mem_cons.mpr ⟨blank, (ih List.mem_cons_self).2⟩⟩
            · exact ih (List.mem_cons_of_mem first later)

/-- Words that are joined with single spaces are read again. -/
theorem words_join {parts : List Text} (each : ∀ part ∈ parts, part ≠ [] ∧ ∀ c ∈ part, isBlankChar c = false) :
    words (join [' '] parts) = parts := by
  induction parts with
  | nil => rfl
  | cons part rest ih =>
      rw [List.forall_mem_cons] at each
      have alone : words part = [part] := words_of_inked each.1.1 each.1.2
      cases rest with
      | nil => simpa [join] using alone
      | cons second others =>
          rw [join_cons_cons, List.append_assoc, List.singleton_append, words_append_cons rfl, alone, ih each.2,
            List.singleton_append]

/-! ### Collapsing -/

theorem trimEnd_cons_inked {c : Char} (inked : isBlankChar c = false) (rest : Text) :
    trimEnd (c :: rest) = c :: trimEnd rest := by
  rw [← List.singleton_append, trimEnd_append]
  split
  · next empty => rw [empty, ← List.nil_append [c], trimEnd_concat inked]
  · rfl

/-- A text that is squeezed behind a blank run is made of its words, but for blank characters at its end. -/
theorem trimEnd_squeeze (text : Text) : trimEnd (squeeze true text) = join [' '] (words text) := by
  induction text with
  | nil => rfl
  | cons c rest ih =>
      cases blank : isBlankChar c with
      | true => rw [squeeze_true_cons_blank blank, words_cons_blank blank, ih]
      | false =>
          rw [squeeze_cons_inked true blank, trimEnd_cons_inked blank]
          rcases words_cons_inked blank rest with ⟨gap, parted⟩ | ⟨begins, first, others, whole, longer⟩
          · rw [parted]
            cases rest with
            | nil => rfl
            | cons d tail =>
                have blank : isBlankChar d = true := gap d rfl
                rw [squeeze_true_cons_blank blank] at ih
                have spaced : squeeze false (d :: tail) = [' '] ++ squeeze true tail :=
                  squeeze_false_cons_blank blank tail
                rw [spaced, trimEnd_append, ih]
                -- The space stays if and only if a word follows it.
                cases found : words (d :: tail) with
                | nil => rfl
                | cons word others =>
                    have member : word ∈ words (d :: tail) := found ▸ List.mem_cons_self
                    obtain ⟨e, letters, rfl⟩ := List.exists_cons_of_ne_nil (inked_of_mem_words member).1
                    rw [join_cons_append, if_neg (List.cons_ne_nil e _), join_cons_cons, join_cons_append]
                    rfl
          · rw [← squeeze_eq_of_head begins true, ih, whole, longer, join_cons_append]

theorem head_squeeze_true (text : Text) : ∀ c ∈ (squeeze true text).head?, isBlankChar c = false := by
  induction text with
  | nil => simp [squeeze]
  | cons c rest ih =>
      cases blank : isBlankChar c with
      | true => rwa [squeeze_true_cons_blank blank]
      | false =>
          rw [squeeze_cons_inked true blank]
          simpa using blank

theorem trimStart_squeeze (text : Text) : trimStart (squeeze false text) = squeeze true text := by
  cases text with
  | nil => rfl
  | cons c rest =>
      cases blank : isBlankChar c with
      | true =>
          rw [squeeze_false_cons_blank blank, squeeze_true_cons_blank blank]
          exact trimStart_eq_self (head_squeeze_true rest)
      | false =>
          rw [squeeze_cons_inked false blank, squeeze_cons_inked true blank, trimStart_cons blank]

theorem collapse_eq_join_words (text : Text) : collapse text = join [' '] (words text) := by
  rw [collapse, trim, trimStart_squeeze, trimEnd_squeeze]

theorem words_collapse (text : Text) : words (collapse text) = words text := by
  rw [collapse_eq_join_words]
  exact words_join fun word member => inked_of_mem_words member

@[simp] theorem collapse_collapse (text : Text) : collapse (collapse text) = collapse text := by
  rw [collapse_eq_join_words (collapse text), words_collapse, ← collapse_eq_join_words]

theorem collapse_eq_trim_spaceRuns (text : Text) : collapse text = trim (spaceRuns text) := by
  rw [collapse, squeeze_eq_spaceRuns]

theorem collapsesTo_collapse (text : Text) : CollapsesTo text (collapse text) where
  spaced := collapse_eq_trim_spaceRuns text
  joined := collapse_eq_join_words text
  words_kept := words_collapse text
  settled := by rw [← collapse_eq_trim_spaceRuns, collapse_collapse]

/-! ### Around a tidy text -/

theorem IsTidy.squeeze {text : Text} (tidy : IsTidy text) : IsTidy (squeeze false text) := by
  obtain ⟨c, rest, rfl⟩ := List.exists_cons_of_ne_nil tidy.nonempty
  have first : isBlankChar c = false := tidy.begins c rfl
  refine ⟨trim_eq_self_iff.mpr ⟨?_, ?_⟩, ?_⟩
  · rw [squeeze_cons_inked false first]
    simpa using first
  · obtain ⟨front, d, whole⟩ := (List.eq_nil_or_concat (c :: rest)).resolve_left tidy.nonempty
    rw [List.concat_eq_append] at whole
    have last : isBlankChar d = false := tidy.ends d (by rw [whole, List.getLast?_concat]; rfl)
    rw [whole, squeeze_append, squeeze_cons_inked _ last]
    simpa [Text.squeeze] using last
  · rw [squeeze_cons_inked false first]
    exact List.cons_ne_nil c _

/-- What stands around a tidy text is collapsed apart from it, whatever is glued to it. -/
theorem IsTidy.collapse_around {text : Text} (tidy : IsTidy text) (before after : Text) :
    collapse (before ++ text ++ after) =
      trimStart (Text.squeeze false before) ++ Text.squeeze false text ++ trimEnd (Text.squeeze false after) := by
  have begins : ∀ c ∈ (text ++ after).head?, isBlankChar c = false := by
    rw [List.head?_append_of_ne_nil text tidy.nonempty]
    exact tidy.begins
  rw [collapse, List.append_assoc, squeeze_append_of_head false before begins,
    squeeze_append_of_last false tidy.nonempty tidy.ends, ← List.append_assoc, tidy.squeeze.trim_around]

/-- Between the same texts, two tidy texts collapse to one if and only if their blank runs alone tell them apart. -/
theorem IsTidy.collapse_around_eq_iff {text other : Text} (tidy : IsTidy text) (otherTidy : IsTidy other)
    (before after : Text) :
    collapse (before ++ text ++ after) = collapse (before ++ other ++ after) ↔ spaceRuns text = spaceRuns other := by
  rw [tidy.collapse_around, otherTidy.collapse_around, List.append_left_inj, List.append_right_inj,
    squeeze_eq_spaceRuns, squeeze_eq_spaceRuns]

/-- A text that has a character which is not white space. -/
def IsVisible (text : Text) : Prop :=
  ∃ c ∈ text, isBlankChar c = false

theorem isVisible_iff {text : Text} : IsVisible text ↔ isBlank text = false := by
  simp [IsVisible, isBlank]

theorem isVisible_iff_trim_ne_nil {text : Text} : IsVisible text ↔ trim text ≠ [] := by
  rw [ne_eq, trim_eq_nil_iff]
  simp [IsVisible]

@[simp] theorem isVisible_append {first second : Text} :
    IsVisible (first ++ second) ↔ IsVisible first ∨ IsVisible second := by
  simp only [IsVisible, List.mem_append, or_and_right, exists_or]

@[simp] theorem isVisible_trim {text : Text} : IsVisible (trim text) ↔ IsVisible text := by
  rw [isVisible_iff_trim_ne_nil, trim_trim, isVisible_iff_trim_ne_nil]

theorem IsTidy.isVisible {text : Text} (tidy : IsTidy text) : IsVisible text := by
  rw [isVisible_iff_trim_ne_nil, tidy.trimmed]
  exact tidy.nonempty

theorem IsVisible.squeeze {text : Text} (visible : IsVisible text) (inRun : Bool) :
    IsVisible (Text.squeeze inRun text) := by
  obtain ⟨c, member, inked⟩ := visible
  obtain ⟨before, after, rfl⟩ := List.append_of_mem member
  refine ⟨c, ?_, inked⟩
  rw [squeeze_append, squeeze_cons_inked _ inked]
  exact List.mem_append_right _ List.mem_cons_self

theorem IsVisible.collapse {text : Text} (visible : IsVisible text) : IsVisible (Text.collapse text) :=
  isVisible_trim.mpr (visible.squeeze false)

end PromptTemplate.Text
