import PromptTemplate.Proofs.Reference.Names

set_option autoImplicit false

namespace PromptTemplate.Reference

open Text (isWordChar blocks wordRuns)

/-- A stretch of a text: characters that are kept, or a reference from underscore to underscore. -/
inductive Segment where
  | literal (text : Text)
  | token (name : Text)
  deriving DecidableEq, Repr

namespace Segment

/-- The name that a token refers to. -/
def name? : Segment → Option Text
  | .literal _ => none
  | .token name => some name

/-- What is written for a segment. A token without a pick stays. -/
def written (picks : Text → Option Text) : Segment → Text
  | .literal text => text
  | .token name => (picks name).getD (Reference.token name)

end Segment

/-- The segments of a block. A run of word characters that encloses a name is cut at its first and behind its
last underscore. -/
def segments (block : Text) : List Segment :=
  if block.all isWordChar then
    match enclosed? block with
    | some name =>
      [.literal (block.take (block.idxOf '_')), .token name,
        .literal (block.drop (block.length - block.reverse.idxOf '_'))]
    | none => [.literal block]
  else [.literal block]

namespace Bounds

variable {run : Text} {first last : Nat} (bounds : Bounds run first last)

include bounds

theorem eq_append_token (apart : first < last) :
    run = run.take first ++ token ((run.take last).drop (first + 1)) ++ run.drop (last + 1) := by
  conv => lhs; rw [← List.take_append_drop first run, bounds.drop_first, bounds.drop_between apart]
  simp [token]

theorem segments_of_apart (word : ∀ c ∈ run, isWordChar c = true) (apart : first + 2 ≤ last) :
    segments run = [.literal (run.take first), .token ((run.take last).drop (first + 1)),
      .literal (run.drop (last + 1))] := by
  obtain ⟨inside, _⟩ := List.getElem?_eq_some_iff.mp bounds.closing
  have closing := bounds.lastIdxOf_eq
  have behind : run.length - run.reverse.idxOf '_' = last + 1 := by omega
  have run? : run.all isWordChar = true := List.all_eq_true.mpr word
  simp only [segments, run?, ↓reduceIte, bounds.enclosed?_eq, apart, bounds.idxOf_eq, behind]

end Bounds

theorem segments_of_enclosed?_eq_none {block : Text} (none : enclosed? block = none) :
    segments block = [.literal block] := by
  simp only [segments, none, ite_self]

theorem segments_of_not_word {block : Text} {c : Char} (member : c ∈ block) (other : isWordChar c = false) :
    segments block = [.literal block] := by
  have mixed : block.all isWordChar = false := List.all_eq_false.mpr ⟨c, member, by simp [other]⟩
  simp only [segments, mixed, Bool.false_eq_true, ↓reduceIte]

/-! ### Writing -/

theorem flatMap_fill_literals (picks : Text → Option Text) (text : Text) :
    (text.map Piece.literal).flatMap (fill picks) = text := by
  induction text with
  | nil => rfl
  | cons c text ih =>
      rw [List.map_cons, List.flatMap_cons, ih]
      rfl

/-- What holds of every character, and of every reference to a name of a text, holds of the pieces of the text. -/
theorem forall_mem_pieces {text : Text} {holds : Piece → Prop} (literal : ∀ c, holds (.literal c))
    (reference : ∀ name ∈ names text, holds (.reference name)) : ∀ piece ∈ pieces text, holds piece := by
  intro piece among
  cases piece with
  | literal c => exact literal c
  | reference name => exact reference name (mem_names_iff.mpr (List.mem_filterMap.mpr ⟨_, among, rfl⟩))

/-- What is written depends on what stands for the names of the text, where a name that nothing is picked for
stands for its token. -/
theorem substitute_congr {text : Text} {picks others : Text → Option Text}
    (agree : ∀ name ∈ names text, (picks name).getD (token name) = (others name).getD (token name)) :
    substitute picks text = substitute others text := by
  apply List.flatMap_congr
  exact forall_mem_pieces (fun _ => rfl) agree

theorem substitute_eq_flatMap_blocks (picks : Text → Option Text) (text : Text) :
    substitute picks text = (blocks text).flatMap (substitute picks) := by
  rw [substitute, pieces_eq_flatMap_blocks, List.flatMap_assoc]
  rfl

/-- Nothing is written over in a block without a name. -/
theorem substitute_of_literal {block : Text} (literal : pieces block = block.map .literal)
    (picks : Text → Option Text) : substitute picks block = block := by
  rw [substitute, literal, flatMap_fill_literals]

theorem substitute_of_not_word {block : Text} (other : ∀ c ∈ block, isWordChar c = false)
    (picks : Text → Option Text) : substitute picks block = block := by
  refine substitute_of_literal (pieces_of_not_mem fun member => ?_) picks
  exact ne_underscore_of_not_isWordChar (other '_' member) rfl

theorem Bounds.substitute_of_apart {run : Text} {first last : Nat} (bounds : Bounds run first last)
    (word : ∀ c ∈ run, isWordChar c = true) (apart : first + 2 ≤ last) (picks : Text → Option Text) :
    substitute picks run = run.take first ++
      fill picks (.reference ((run.take last).drop (first + 1))) ++ run.drop (last + 1) := by
  rw [substitute, bounds.pieces_of_apart word apart, List.flatMap_append, List.flatMap_cons,
    flatMap_fill_literals, flatMap_fill_literals, List.append_assoc]

theorem substitute_block {text block : Text} (among : block ∈ blocks text) (picks : Text → Option Text) :
    substitute picks block = (segments block).flatMap (Segment.written picks) := by
  by_cases kept : block ∈ wordRuns text
  · have word := Text.all_isWordChar_of_mem_wordRuns kept
    cases encloses : enclosed? block with
    | none =>
        rw [segments_of_enclosed?_eq_none encloses,
          substitute_of_literal (pieces_of_enclosed?_eq_none encloses)]
        simp [Segment.written]
    | some name =>
        obtain ⟨first, last, bounds, apart, rfl⟩ := enclosed?_eq_some_iff.mp encloses
        rw [bounds.segments_of_apart word apart, bounds.substitute_of_apart word apart]
        simp [Segment.written, fill]
  · have occupied : block ≠ [] := by
      rintro rfl
      exact (Text.blocks_isCut text).nonempty among
    obtain ⟨c, rest, rfl⟩ := List.exists_cons_of_ne_nil occupied
    have other := Text.not_isWordChar_of_not_mem_wordRuns among kept c List.mem_cons_self
    rw [segments_of_not_word List.mem_cons_self other,
      substitute_of_literal (pieces_of_not_mem_wordRuns among kept)]
    simp [Segment.written]

theorem substitute_eq_flatMap_segments (picks : Text → Option Text) (text : Text) :
    substitute picks text = ((blocks text).flatMap segments).flatMap (Segment.written picks) := by
  rw [substitute_eq_flatMap_blocks, List.flatMap_assoc]
  exact List.flatMap_congr fun block among => substitute_block among picks

/-! ### The segments of a text -/

theorem flatMap_segments_block (block : Text) :
    (segments block).flatMap (Segment.written fun _ => none) = block := by
  by_cases word : block.all isWordChar = true
  · cases encloses : enclosed? block with
    | none =>
        rw [segments_of_enclosed?_eq_none encloses]
        simp [Segment.written]
    | some name =>
        obtain ⟨first, last, bounds, apart, rfl⟩ := enclosed?_eq_some_iff.mp encloses
        rw [bounds.segments_of_apart (List.all_eq_true.mp word) apart]
        conv => rhs; rw [bounds.eq_append_token (by omega)]
        simp [Segment.written]
  · simp [segments, word, Segment.written]

/-- No character of a text is lost or moved when it is cut into segments. -/
theorem flatMap_segments (text : Text) :
    ((blocks text).flatMap segments).flatMap (Segment.written fun _ => none) = text := by
  have whole : (blocks text).flatten = text := (Text.blocks_isCut text).whole
  rw [List.flatMap_assoc]
  simp only [flatMap_segments_block]
  rw [List.flatMap_id', whole]

theorem substitute_none (text : Text) : substitute (fun _ => none) text = text := by
  rw [substitute_eq_flatMap_segments, flatMap_segments]

theorem filterMap_name?_segments (block : Text) :
    (segments block).filterMap Segment.name? =
      (if block.all isWordChar = true then enclosed? block else none).toList := by
  simp only [segments]
  split
  · cases enclosed? block <;> rfl
  · rfl

theorem occurrences_eq_filterMap_segments (text : Text) :
    occurrences text = ((blocks text).flatMap segments).filterMap Segment.name? := by
  rw [occurrences_eq_filterMap_wordRuns, wordRuns, List.filterMap_filter,
    List.filterMap_eq_flatMap_toList, List.filterMap_flatMap]
  simp only [filterMap_name?_segments]

/-- Substitution goes once over the segments of a text. The text is cut into its maximal blocks; a run of word
characters whose outermost underscores are at least two positions apart has a token from the one to the other
between two literal segments, and every other block is one literal segment. The segments are the text, their
tokens name what it refers to, and with any picks the literal segments are written as they are and each token
as it is picked for, or as it is if nothing is. So a text stays if its names are picked as their own tokens or not
at all, and picks for other names do not matter. -/
theorem substitute_in_one_pass (text : Text) :
    let parts := (blocks text).flatMap segments
    Text.IsCut text (blocks text) ∧
      (∀ block ∈ blocks text, block ∉ wordRuns text → segments block = [.literal block]) ∧
      (∀ run ∈ wordRuns text,
        (¬ ∃ first last, Bounds run first last ∧ first + 2 ≤ last) → segments run = [.literal run]) ∧
      (∀ run ∈ wordRuns text, ∀ first last, Bounds run first last → first + 2 ≤ last →
        segments run = [.literal (run.take first), .token ((run.take last).drop (first + 1)),
          .literal (run.drop (last + 1))]) ∧
      parts.flatMap (Segment.written fun _ => none) = text ∧
      names text = (parts.filterMap Segment.name?).eraseDups ∧
      (∀ picks, substitute picks text = parts.flatMap (Segment.written picks)) ∧
      (∀ picks : Text → Option Text,
        (∀ name ∈ names text, ∀ value, picks name = some value → value = token name) →
          substitute picks text = text) ∧
      ∀ picks others : Text → Option Text, (∀ name ∈ names text, picks name = others name) →
        substitute picks text = substitute others text := by
  intro parts
  refine ⟨Text.blocks_isCut text, ?_, ?_, ?_, flatMap_segments text, ?_, ?_, ?_, ?_⟩
  · intro block among other
    have occupied : block ≠ [] := fun empty => (Text.blocks_isCut text).nonempty (empty ▸ among)
    obtain ⟨c, member⟩ := List.exists_mem_of_ne_nil block occupied
    exact segments_of_not_word member (Text.not_isWordChar_of_not_mem_wordRuns among other c member)
  · intro run _ close
    apply segments_of_enclosed?_eq_none
    rw [Option.eq_none_iff_forall_ne_some]
    intro name encloses
    obtain ⟨first, last, bounds, apart, _⟩ := enclosed?_eq_some_iff.mp encloses
    exact close ⟨first, last, bounds, apart⟩
  · intro run member first last bounds apart
    exact bounds.segments_of_apart (Text.all_isWordChar_of_mem_wordRuns member) apart
  · rw [names, occurrences_eq_filterMap_segments]
  · exact fun picks => substitute_eq_flatMap_segments picks text
  · intro picks own
    conv => rhs; rw [← substitute_none text]
    apply substitute_congr
    intro name member
    cases picked : picks name with
    | none => rfl
    | some value => rw [own name member value picked]; rfl
  · intro picks others agree
    exact substitute_congr fun name member => by rw [agree name member]

/-- Inserted underscores make no reference with what stands beside them, and a name without a pick stays. -/
theorem substitute_of_completing_values :
    let text := "x_a_y__b__ _c_|_".toList
    let picks : Text → Option Text := fun name =>
      if name = "a_y__b_".toList then some "_c_ [_".toList else none
    Bounds "x_a_y__b__".toList 1 9 ∧ substitute picks text = "x_c_ [_ _c_|_".toList ∧
      substitute (fun name => if name = "c".toList then some "_c_".toList else none) text = text := by
  intro text picks
  have member : "x_a_y__b__".toList ∈ wordRuns text := by decide
  have bounds : Bounds "x_a_y__b__".toList 1 9 := by
    have within : ∀ index < 10, "x_a_y__b__".toList[index]? = some '_' → 1 ≤ index ∧ index ≤ 9 := by decide
    exact ⟨rfl, rfl, fun index found => within index (List.getElem?_eq_some_iff.mp found).1 found⟩
  obtain ⟨_, _, _, cut, _, _, written, kept, _⟩ := substitute_in_one_pass text
  have first := cut _ member 1 9 bounds (by decide)
  have parts : (blocks text).flatMap segments =
      segments "x_a_y__b__".toList ++ ([.literal " ".toList, .literal [], .token "c".toList, .literal [],
        .literal "|".toList, .literal "_".toList] : List Segment) := by decide
  have own : ∀ name ∈ names text, ∀ value,
      (if name = "c".toList then some "_c_".toList else none) = some value → value = token name := by
    intro name _ value picked
    split at picked
    · next same =>
        cases picked
        rw [same]
        rfl
    · cases picked
  refine ⟨bounds, ?_, ?_⟩
  · rw [written, parts, first]
    decide
  · exact kept _ own

end PromptTemplate.Reference
