import PromptTemplate.Proofs.Reference.Substitution

set_option autoImplicit false

namespace PromptTemplate.Reference

open Text (isWordChar blocks)

/-- Picks whose values have no underscore. -/
def IsBare (picks : Text → Option Text) : Prop :=
  ∀ name value, picks name = some value → '_' ∉ value

/-- What a piece is read as when picks have been written: the characters of the value, or the piece again. -/
def staged (picks : Text → Option Text) : Piece → List Piece
  | .literal c => [.literal c]
  | .reference name =>
    match picks name with
    | some value => value.map .literal
    | none => [.reference name]

variable {picks : Text → Option Text}

theorem flatMap_staged_literals (text : Text) :
    (text.map Piece.literal).flatMap (staged picks) = text.map .literal := by
  rw [List.flatMap_map, List.map_eq_flatMap]
  rfl

theorem pieces_substitute_of_literal {block : Text} (literal : pieces block = block.map .literal) :
    pieces (substitute picks block) = (pieces block).flatMap (staged picks) := by
  rw [substitute_of_literal literal, literal, flatMap_staged_literals]

/-- In a run that encloses a picked name no underscore is left; if the name is not picked, the run stays. -/
theorem pieces_substitute_run (bare : IsBare picks) {run : Text} (word : ∀ c ∈ run, isWordChar c = true) :
    pieces (substitute picks run) = (pieces run).flatMap (staged picks) := by
  cases encloses : enclosed? run with
  | none => exact pieces_substitute_of_literal (pieces_of_enclosed?_eq_none encloses)
  | some name =>
      obtain ⟨first, last, bounds, apart, rfl⟩ := enclosed?_eq_some_iff.mp encloses
      rw [bounds.substitute_of_apart word apart]
      cases picked : picks ((run.take last).drop (first + 1)) with
      | none =>
          rw [fill, picked, Option.getD_none, ← bounds.eq_append_token (by omega),
            bounds.pieces_of_apart word apart, List.flatMap_append, List.flatMap_cons,
            flatMap_staged_literals, flatMap_staged_literals, staged, picked, List.singleton_append]
      | some value =>
          have absent : '_' ∉ run.take first ++ value ++ run.drop (last + 1) := by
            rw [List.mem_append, List.mem_append, not_or, not_or]
            exact ⟨⟨bounds.not_mem_take, bare _ value picked⟩, bounds.not_mem_drop (Nat.lt_succ_self last)⟩
          rw [fill, picked, Option.getD_some, pieces_of_not_mem absent,
            bounds.pieces_of_apart word apart, List.flatMap_append, List.flatMap_cons,
            flatMap_staged_literals, flatMap_staged_literals, staged, picked, List.map_append,
            List.map_append, List.append_assoc]

/-- What is written in one block is read apart from what is written in the next, since one of the two has no word
character and is not written over. -/
theorem pieces_flatMap_substitute {parts : List Text} (nonempty : [] ∉ parts)
    (uniform : ∀ part ∈ parts, ∀ a ∈ part, ∀ b ∈ part, isWordChar a = isWordChar b)
    (parted : parts.IsChain fun left right => ∀ a ∈ left, ∀ b ∈ right, isWordChar a ≠ isWordChar b) :
    pieces (parts.flatMap (substitute picks)) = parts.flatMap fun part => pieces (substitute picks part) := by
  induction parts with
  | nil => exact pieces_nil
  | cons part rest ih =>
      rw [List.mem_cons, not_or] at nonempty
      rw [List.forall_mem_cons] at uniform
      obtain ⟨next, others⟩ := List.isChain_cons.mp parted
      rw [List.flatMap_cons, List.flatMap_cons, ← ih nonempty.2 uniform.2 others]
      apply pieces_append
      intro a atEnd c atStart kept
      obtain ⟨d, tail, rfl⟩ := List.exists_cons_of_ne_nil (Ne.symm nonempty.1)
      cases mixed : isWordChar d with
      | false =>
          -- The left block stays as it is, so that it does not end with a word character.
          have plain : ∀ b ∈ d :: tail, isWordChar b = false := by
            intro b member
            rw [uniform.1 b member d List.mem_cons_self, mixed]
          rw [substitute_of_not_word plain] at atEnd
          rw [plain a (List.mem_of_getLast? atEnd)] at kept
          cases kept
      | true =>
          have run : ∀ b ∈ d :: tail, isWordChar b = true := by
            intro b member
            rw [uniform.1 b member d List.mem_cons_self, mixed]
          have occupied : [] ∉ (d :: tail) :: rest := by simpa using nonempty.2
          exact Text.not_isWordChar_behind_run occupied run parted (fun _ _ plain => substitute_of_not_word plain picks) c
            atStart

/-- Written values are read as literal characters, and everything else as before. -/
theorem pieces_substitute (bare : IsBare picks) (text : Text) :
    pieces (substitute picks text) = (pieces text).flatMap (staged picks) := by
  have cut := Text.blocks_isCut text
  rw [substitute_eq_flatMap_blocks, pieces_flatMap_substitute cut.nonempty cut.uniform cut.maximal,
    pieces_eq_flatMap_blocks text, List.flatMap_assoc]
  apply List.flatMap_congr
  intro block among
  by_cases kept : block ∈ Text.wordRuns text
  · exact pieces_substitute_run bare (Text.all_isWordChar_of_mem_wordRuns kept)
  · exact pieces_substitute_of_literal (pieces_of_not_mem_wordRuns among kept)

theorem filterMap_nameOf?_staged (read : List Piece) :
    (read.flatMap (staged picks)).filterMap nameOf? =
      (read.filterMap nameOf?).filter fun name => (picks name).isNone := by
  induction read with
  | nil => rfl
  | cons piece read ih =>
      rw [List.flatMap_cons, List.filterMap_append, ih]
      cases piece with
      | literal c => rfl
      | reference name =>
          cases picked : picks name with
          | none => simp [staged, nameOf?, picked]
          | some value => simp [staged, nameOf?, picked]

theorem occurrences_substitute (bare : IsBare picks) (text : Text) :
    occurrences (substitute picks text) = (occurrences text).filter fun name => (picks name).isNone := by
  rw [occurrences, pieces_substitute bare, filterMap_nameOf?_staged]
  rfl

/-- Leaving elements out and leaving repetitions out may be done in either order. -/
theorem eraseDups_filter {α : Type} [BEq α] [LawfulBEq α] (kept : α → Bool) (items : List α) :
    (items.filter kept).eraseDups = items.eraseDups.filter kept := by
  match items with
  | [] => rfl
  | item :: rest =>
      have fewer := eraseDups_filter kept (rest.filter fun other => !other == item)
      have order : (rest.filter kept).filter (fun other => !other == item) =
          (rest.filter fun other => !other == item).filter kept := List.filter_comm _ _ _
      rw [List.eraseDups_cons]
      cases keeping : kept item with
      | true => rw [List.filter_cons_of_pos keeping, List.filter_cons_of_pos keeping, List.eraseDups_cons, order, fewer]
      | false =>
          have absent : (rest.filter kept).filter (fun other => !other == item) = rest.filter kept := by
            rw [List.filter_eq_self]
            intro other member
            have found := (List.mem_filter.mp member).2
            rw [Bool.not_eq_true', beq_eq_false_iff_ne]
            rintro rfl
            rw [keeping] at found
            cases found
          rw [List.filter_cons_of_neg (by simp [keeping]), List.filter_cons_of_neg (by simp [keeping]), ← fewer,
            ← order, absent]
termination_by items.length
decreasing_by
  have shorter := List.length_filter_le (fun other => !other == item) rest
  simp only [List.length_cons]
  omega

theorem names_substitute (bare : IsBare picks) (text : Text) :
    names (substitute picks text) = (names text).filter fun name => (picks name).isNone := by
  rw [names, occurrences_substitute bare, eraseDups_filter]
  rfl

theorem names_substitute_eq_nil (bare : IsBare picks) {text : Text}
    (picked : ∀ name ∈ names text, (picks name).isSome = true) : names (substitute picks text) = [] := by
  rw [names_substitute bare, List.filter_eq_nil_iff]
  intro name member
  simpa using Option.isSome_iff_ne_none.mp (picked name member)

/-- Two substitutions are one in which the first picks come first. -/
theorem substitute_substitute (bare : IsBare picks) (later : Text → Option Text) (text : Text) :
    substitute later (substitute picks text) = substitute (fun name => (picks name).or (later name)) text := by
  rw [substitute, pieces_substitute bare, List.flatMap_assoc, substitute]
  apply List.flatMap_congr
  intro piece _
  cases piece with
  | literal c => rfl
  | reference name =>
      cases picked : picks name with
      | none => simp [staged, fill, picked]
      | some value => simp [staged, fill, picked, flatMap_fill_literals]

end PromptTemplate.Reference
