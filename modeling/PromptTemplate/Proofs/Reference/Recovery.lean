import PromptTemplate.Proofs.Reference.Substitution

set_option autoImplicit false

namespace PromptTemplate.Reference

open Text (isWordChar isBlankChar blocks wordRuns)

/-- Picks that have, for each of the names, a text that could be a name itself: word characters, at least one. -/
def Spells (picks : Text → Option Text) (names : List Text) : Prop :=
  ∀ name ∈ names, ∃ value, picks name = some value ∧ IsName value

/-- Word characters can be told from what follows them, if that does not begin with one. -/
theorem append_inj_of_word {first second rest others : Text} (left : ∀ c ∈ first, isWordChar c = true)
    (right : ∀ c ∈ second, isWordChar c = true) (stop : ∀ c ∈ rest.head?, isWordChar c = false)
    (halt : ∀ c ∈ others.head?, isWordChar c = false) (same : first ++ rest = second ++ others) :
    first = second ∧ rest = others := by
  have cut : ∀ {front back : Text}, (∀ c ∈ front, isWordChar c = true) → (∀ c ∈ back.head?, isWordChar c = false) →
      (front ++ back).takeWhile isWordChar = front := by
    intro front back word stop
    rw [List.takeWhile_append_of_pos word]
    cases back with
    | nil => simp
    | cons c back => rw [List.takeWhile_cons_of_neg (by simp [stop c rfl]), List.append_nil]
  have fronts : first = second := by rw [← cut left stop, same, cut right halt]
  subst fronts
  exact ⟨rfl, List.append_cancel_left same⟩

/-- A way of writing over blocks: runs of word characters are written over by word characters, and other blocks are
kept. -/
structure WritesRuns (write : Text → Text) (parts : List Text) : Prop where
  word : ∀ part ∈ parts, (∀ c ∈ part, isWordChar c = true) → ∀ c ∈ write part, isWordChar c = true
  kept : ∀ part ∈ parts, (∀ c ∈ part, isWordChar c = false) → write part = part

theorem WritesRuns.tail {write : Text → Text} {part : Text} {rest : List Text}
    (writes : WritesRuns write (part :: rest)) : WritesRuns write rest :=
  ⟨fun other member => writes.word other (List.mem_cons_of_mem part member),
    fun other member => writes.kept other (List.mem_cons_of_mem part member)⟩

/-- Blocks that are written over in two ways, to the same text, are each written over alike. -/
theorem eq_of_flatMap_eq {write rewrite : Text → Text} {parts : List Text} (nonempty : [] ∉ parts)
    (uniform : ∀ part ∈ parts, ∀ a ∈ part, ∀ b ∈ part, isWordChar a = isWordChar b)
    (parted : parts.IsChain fun left right => ∀ a ∈ left, ∀ b ∈ right, isWordChar a ≠ isWordChar b)
    (writes : WritesRuns write parts) (rewrites : WritesRuns rewrite parts)
    (same : parts.flatMap write = parts.flatMap rewrite) : ∀ part ∈ parts, write part = rewrite part := by
  induction parts with
  | nil => simp
  | cons part rest ih =>
      have later := (List.isChain_cons.mp parted).2
      have occupied := List.not_mem_of_not_mem_cons nonempty
      have mixed := fun part member => uniform part (List.mem_cons_of_mem _ member)
      obtain ⟨d, tail, rfl⟩ := List.exists_cons_of_ne_nil (Ne.symm (List.ne_of_not_mem_cons nonempty))
      rw [List.flatMap_cons, List.flatMap_cons] at same
      have split : write (d :: tail) = rewrite (d :: tail) ∧ rest.flatMap write = rest.flatMap rewrite := by
        cases head : isWordChar d with
        | true =>
            have word : ∀ c ∈ d :: tail, isWordChar c = true := fun c member =>
              (uniform _ List.mem_cons_self c member d List.mem_cons_self).trans head
            exact append_inj_of_word (writes.word _ List.mem_cons_self word) (rewrites.word _ List.mem_cons_self word)
              (Text.not_isWordChar_behind_run nonempty word parted writes.tail.kept)
              (Text.not_isWordChar_behind_run nonempty word parted rewrites.tail.kept) same
        | false =>
            have plain : ∀ c ∈ d :: tail, isWordChar c = false := fun c member =>
              (uniform _ List.mem_cons_self c member d List.mem_cons_self).trans head
            rw [writes.kept _ List.mem_cons_self plain, rewrites.kept _ List.mem_cons_self plain] at same ⊢
            exact ⟨rfl, List.append_cancel_left same⟩
      rw [List.forall_mem_cons]
      exact ⟨split.1, ih occupied mixed later writes.tail rewrites.tail split.2⟩

section

variable {picks others : Text → Option Text} {run name : Text}

theorem isName_of_mem_wordRuns {text : Text} (member : run ∈ wordRuns text) : IsName run := by
  refine ⟨?_, Text.all_isWordChar_of_mem_wordRuns member⟩
  rintro rfl
  exact (Text.blocks_isCut text).nonempty (List.mem_filter.mp member).1

theorem mem_names_of_enclosed? {text : Text} (member : run ∈ wordRuns text) (encloses : enclosed? run = some name) :
    name ∈ names text := by
  rw [mem_names_iff, occurrences_eq_filterMap_wordRuns]
  exact List.mem_filterMap.mpr ⟨run, member, encloses⟩

theorem exists_run_of_mem_names {text : Text} (member : name ∈ names text) :
    ∃ run ∈ wordRuns text, enclosed? run = some name := by
  rw [mem_names_iff, occurrences_eq_filterMap_wordRuns] at member
  exact List.mem_filterMap.mp member

theorem isName_substitute {text : Text} (spells : Spells picks (names text)) (member : run ∈ wordRuns text) :
    IsName (substitute picks run) := by
  have named := isName_of_mem_wordRuns member
  cases encloses : enclosed? run with
  | none => rwa [substitute_of_literal (pieces_of_enclosed?_eq_none encloses)]
  | some name =>
      obtain ⟨value, picked, spelled⟩ := spells name (mem_names_of_enclosed? member encloses)
      obtain ⟨first, last, bounds, apart, rfl⟩ := enclosed?_eq_some_iff.mp encloses
      rw [bounds.substitute_of_apart named.word apart, fill, picked, Option.getD_some]
      refine ⟨by simp [spelled.nonempty], ?_⟩
      rw [List.forall_mem_append, List.forall_mem_append]
      exact ⟨⟨fun c inside => named.word c (List.mem_of_mem_take inside), spelled.word⟩,
        fun c inside => named.word c (List.mem_of_mem_drop inside)⟩

theorem eq_of_substitute_run_eq {value other : Text} (word : ∀ c ∈ run, isWordChar c = true)
    (encloses : enclosed? run = some name) (picked : picks name = some value) (chosen : others name = some other)
    (same : substitute picks run = substitute others run) : value = other := by
  obtain ⟨first, last, bounds, apart, rfl⟩ := enclosed?_eq_some_iff.mp encloses
  rw [bounds.substitute_of_apart word apart, bounds.substitute_of_apart word apart, fill, picked, fill, chosen,
    Option.getD_some, Option.getD_some, List.append_assoc, List.append_assoc] at same
  exact List.append_cancel_right (List.append_cancel_left same)

theorem Spells.writesRuns {text : Text} (spells : Spells picks (names text)) :
    WritesRuns (substitute picks) (blocks text) where
  word part among word := by
    have member : part ∈ wordRuns text := List.mem_filter.mpr ⟨among, List.all_eq_true.mpr word⟩
    exact (isName_substitute spells member).word
  kept _ _ plain := substitute_of_not_word plain picks

/-- Texts that are written by picks which spell the names out differ, unless the same is picked for every name. -/
theorem eq_of_substitute_eq {text : Text} (spells : Spells picks (names text)) (respells : Spells others (names text))
    (same : substitute picks text = substitute others text) : ∀ name ∈ names text, picks name = others name := by
  intro name member
  obtain ⟨run, among, encloses⟩ := exists_run_of_mem_names member
  obtain ⟨value, picked, _⟩ := spells name member
  obtain ⟨other, chosen, _⟩ := respells name member
  have cut := Text.blocks_isCut text
  rw [substitute_eq_flatMap_blocks, substitute_eq_flatMap_blocks] at same
  have alike := eq_of_flatMap_eq cut.nonempty cut.uniform cut.maximal spells.writesRuns respells.writesRuns same run
    (List.mem_filter.mp among).1
  have word := Text.all_isWordChar_of_mem_wordRuns among
  rw [picked, chosen, eq_of_substitute_run_eq word encloses picked chosen alike]

end

section

variable {picks : Text → Option Text} {text : Text}

/-- A block is kept, or it is written over by characters that are not blank. -/
theorem substitute_block_cases (spells : Spells picks (names text)) {block : Text} (among : block ∈ blocks text) :
    substitute picks block = block ∨ IsName (substitute picks block) := by
  by_cases kept : block ∈ wordRuns text
  · exact Or.inr (isName_substitute spells kept)
  · exact Or.inl (substitute_of_literal (pieces_of_not_mem_wordRuns among kept) picks)

theorem not_isBlankChar_of_end (spells : Spells picks (names text)) {block : Text} (among : block ∈ blocks text)
    {final : Text → Option Char} (inside : ∀ written c, final written = some c → c ∈ written)
    (inked : ∀ c ∈ final block, isBlankChar c = false) : ∀ c ∈ final (substitute picks block), isBlankChar c = false := by
  rcases substitute_block_cases spells among with kept | named
  · rwa [kept]
  · exact fun c atEnd => named.not_isBlankChar (inside _ c atEnd)

theorem substitute_block_ne_nil (spells : Spells picks (names text)) {block : Text} (among : block ∈ blocks text) :
    substitute picks block ≠ [] := by
  rcases substitute_block_cases spells among with kept | named
  · rw [kept]
    exact fun empty => (Text.blocks_isCut text).nonempty (empty ▸ among)
  · exact named.nonempty

theorem trim_substitute_of_trimmed (spells : Spells picks (names text)) (trimmed : Text.trim text = text) :
    Text.trim (substitute picks text) = substitute picks text := by
  obtain ⟨first, last⟩ := Text.trim_eq_self_iff.mp trimmed
  rw [← (Text.blocks_isCut text).whole] at first last
  rw [Text.trim_eq_self_iff, substitute_eq_flatMap_blocks]
  have nonempty := (Text.blocks_isCut text).nonempty
  refine ⟨?_, ?_⟩
  · cases parts : blocks text with
    | nil => simp
    | cons block rest =>
        have among : block ∈ blocks text := parts ▸ List.mem_cons_self
        have present : block ≠ [] := fun empty => nonempty (empty ▸ among)
        rw [parts, List.flatten_cons, List.head?_append_of_ne_nil _ present] at first
        rw [List.flatMap_cons, List.head?_append_of_ne_nil _ (substitute_block_ne_nil spells among)]
        exact not_isBlankChar_of_end spells among (fun _ _ => List.mem_of_head?) first
  · rcases List.eq_nil_or_concat (blocks text) with parts | ⟨front, block, parts⟩
    · simp [parts]
    · have among : block ∈ blocks text := by simp [parts]
      have present : block ≠ [] := fun empty => nonempty (empty ▸ among)
      rw [parts, List.concat_eq_append, List.flatten_append, List.flatten_singleton,
        List.getLast?_append_of_ne_nil _ present] at last
      rw [parts, List.concat_eq_append, List.flatMap_append, List.flatMap_singleton,
        List.getLast?_append_of_ne_nil _ (substitute_block_ne_nil spells among)]
      exact not_isBlankChar_of_end spells among (fun _ _ => List.mem_of_getLast?) last

/-- Trimming goes past substitution. -/
theorem trim_substitute (spells : Spells picks (names text)) :
    Text.trim (substitute picks text) = substitute picks (Text.trim text) := by
  obtain ⟨before, after, leading, trailing, read⟩ := exists_pieces_trim text
  have whole : substitute picks text = before ++ substitute picks (Text.trim text) ++ after := by
    rw [substitute, read, List.flatMap_append, List.flatMap_append, flatMap_fill_literals, flatMap_fill_literals]
    rfl
  rw [whole, Text.trim_append_of_blank leading _ trailing]
  exact trim_substitute_of_trimmed ((names_trim text).symm ▸ spells) (Text.trim_trim text)

end

/-- What is written differs though it is trimmed, unless the same is picked for every name. -/
theorem eq_of_trim_substitute_eq {picks others : Text → Option Text} {text : Text} (spells : Spells picks (names text))
    (respells : Spells others (names text))
    (same : Text.trim (substitute picks text) = Text.trim (substitute others text)) :
    ∀ name ∈ names text, picks name = others name := by
  rw [trim_substitute spells, trim_substitute respells] at same
  rw [← names_trim] at spells respells ⊢
  exact eq_of_substitute_eq spells respells same

end PromptTemplate.Reference
