import PromptTemplate.Proofs.Loading.Origin
import PromptTemplate.Proofs.Reference.Names
import PromptTemplate.Proofs.Store.Soundness
import PromptTemplate.Proofs.Text.Words

set_option autoImplicit false

namespace PromptTemplate

namespace Name

open Reference (IsName)

/-- A name is its own stem, or its stem with a line feed behind it. -/
theorem stem_cases (name : Text) :
    (stem name = name ∧ name.getLast? ≠ some '\n') ∨ name = stem name ++ ['\n'] := by
  fun_induction stem name with
  | case1 => exact Or.inl ⟨rfl, by simp⟩
  | case2 => exact Or.inr rfl
  | case3 c rest other ih =>
      rcases ih with ⟨same, last⟩ | fed
      · refine Or.inl ⟨by rw [same], ?_⟩
        cases rest with
        | nil => simpa using fun fed => other fed rfl
        | cons d rest => simpa using last
      · refine Or.inr ?_
        conv => lhs; rw [fed]
        rfl

theorem stem_of_unfed {name : Text} (unfed : name.getLast? ≠ some '\n') : stem name = name := by
  rcases stem_cases name with ⟨same, _⟩ | fed
  · exact same
  · rw [fed] at unfed
    exact absurd (List.getLast?_concat ..) unfed

theorem stem_of_fed (body : Text) : stem (body ++ ['\n']) = body := by
  rcases stem_cases (body ++ ['\n']) with ⟨_, unfed⟩ | fed
  · exact absurd (List.getLast?_concat ..) unfed
  · exact (List.append_cancel_right fed).symm

theorem mem_of_mem_stem {name : Text} {c : Char} (member : c ∈ stem name) : c ∈ name := by
  rcases stem_cases name with ⟨same, _⟩ | fed
  · exact same ▸ member
  · rw [fed]
    exact List.mem_append_left _ member

/-- A line feed is no word character. -/
theorem unfed_of_isName {name : Text} (named : IsName name) : name.getLast? ≠ some '\n' := by
  intro fed
  have word := named.word '\n' (List.mem_of_getLast? fed)
  cases word

theorem isBlank_of_isName_stem {name : Text} (named : IsName (stem name)) : Text.isBlank name = false := by
  obtain ⟨c, member⟩ := List.exists_mem_of_ne_nil _ named.nonempty
  exact Text.isVisible_iff.mp ⟨c, mem_of_mem_stem member, named.not_isBlankChar member⟩

/-- The check asks for a stem that can be referred to, and counts the line feed behind it. -/
theorem fault?_eq_none_iff {name : Text} :
    fault? name = none ↔ IsName (stem name) ∧ name.length ≤ maxLength := by
  have foreign : ((stem name).isEmpty || !(stem name).all Text.isWordChar) = true ↔ ¬ IsName (stem name) := by
    rw [← Bool.not_eq_false, not_iff_not, Bool.or_eq_false_iff, Bool.not_eq_false', List.all_eq_true,
      List.isEmpty_eq_false_iff]
    exact ⟨fun ⟨nonempty, word⟩ => ⟨nonempty, word⟩, fun named => ⟨named.nonempty, named.word⟩⟩
  rw [fault?]
  split
  · next blank =>
      have unnamed : ¬ IsName (stem name) := fun named => by simp [isBlank_of_isName_stem named] at blank
      simp [unnamed]
  · split
    · next other => simp [foreign.mp other]
    · next word =>
        have named : IsName (stem name) := not_not.mp (word ∘ foreign.mpr)
        simp [named]

end Name

namespace Reference

/-- The token of a name is read back as the name, as long as the name can be one. -/
theorem names_token_iff {name : Text} : names (token name) = [name] ↔ IsName name := by
  constructor
  · exact fun found => isName_of_mem_names (found ▸ List.mem_singleton_self name)
  · intro named
    rw [names, occurrences, pieces_token named]
    rfl

/-- A name that any prompt refers to is one that its own token refers to. -/
theorem exists_prompt_iff {name : Text} : (∃ prompt, name ∈ names prompt) ↔ IsName name := by
  constructor
  · rintro ⟨prompt, member⟩
    exact isName_of_mem_names member
  · intro named
    exact ⟨token name, names_token_iff.mpr named ▸ List.mem_singleton_self name⟩

end Reference

/-- A name can be stored if and only if it passes its check, at first or when an item is renamed. -/
theorem Store.exists_stored_iff {name : Text} :
    (∃ operations, ∃ item ∈ (final {} operations).items, item.name = name) ↔ Name.fault? name = none := by
  constructor
  · rintro ⟨operations, item, member, rfl⟩
    exact (isSound_empty.final operations).named item member
  · intro valid
    have free : Store.nameFault? {} [] name none = none := by
      rw [nameFault?_eq_none_iff]
      exact ⟨valid, List.forall_mem_nil _⟩
    refine ⟨[.save [] name [] []], ⟨1, [], name, [], []⟩, ?_, rfl⟩
    rw [final_cons, perform_save, free]
    exact List.mem_singleton_self _

/-- The names that pass their check are those that can be referred to, and those with a line feed behind them. Of at
most fifty characters, a name passes without a line feed at its end if and only if its token is read back as the name,
which is so for any word characters, at least one, and for no other text; and no prompt refers to what its own token
does not refer to. A store holds a name, whether an item was saved or renamed, if and only if it passes, and a catalog
that was loaded from a file or a directory has no other names. -/
theorem accepted_names_referable_but_for_line_feed (name : Text) :
    let accepted := (Name.validate name).isValid = true
    let referable := Reference.names (Reference.token name) = [name]
    (referable ↔ name ≠ [] ∧ ∀ c ∈ name, Text.isWordChar c = true) ∧
      (referable ↔ ∃ prompt, name ∈ Reference.names prompt) ∧
      (accepted ∧ name.getLast? ≠ some '\n' ↔ name.length ≤ Name.maxLength ∧ referable) ∧
      (accepted ∧ name.getLast? = some '\n' ↔ name.length ≤ Name.maxLength ∧
        ∃ body, Reference.names (Reference.token body) = [body] ∧ name = body ++ ['\n']) ∧
      (accepted ↔ ∃ operations, ∃ item ∈ (Store.final {} operations).items, item.name = name) ∧
      ∀ tree path read catalog, (Catalog.load tree path read).result = .ok catalog →
        ∀ definition ∈ catalog, definition.name = name → accepted := by
  intro accepted referable
  have free : accepted ↔ Name.fault? name = none := Name.isValid_validate_iff
  have valid : accepted ↔ Reference.IsName (Name.stem name) ∧ name.length ≤ Name.maxLength :=
    free.trans Name.fault?_eq_none_iff
  have named : referable ↔ Reference.IsName name := Reference.names_token_iff
  refine ⟨named.trans ?_, named.trans Reference.exists_prompt_iff.symm, ⟨?_, ?_⟩, ⟨?_, ?_⟩,
    free.trans Store.exists_stored_iff.symm, ?_⟩
  · exact ⟨fun named => ⟨named.nonempty, named.word⟩, fun ⟨nonempty, word⟩ => ⟨nonempty, word⟩⟩
  · rintro ⟨passed, unfed⟩
    obtain ⟨stemmed, short⟩ := valid.mp passed
    rw [Name.stem_of_unfed unfed] at stemmed
    exact ⟨short, named.mpr stemmed⟩
  · rintro ⟨short, found⟩
    have unfed := Name.unfed_of_isName (named.mp found)
    refine ⟨valid.mpr ⟨?_, short⟩, unfed⟩
    rw [Name.stem_of_unfed unfed]
    exact named.mp found
  · rintro ⟨passed, fed⟩
    obtain ⟨stemmed, short⟩ := valid.mp passed
    refine ⟨short, Name.stem name, Reference.names_token_iff.mpr stemmed, ?_⟩
    rcases Name.stem_cases name with ⟨_, unfed⟩ | cut
    · exact absurd fed unfed
    · exact cut
  · rintro ⟨short, body, found, rfl⟩
    refine ⟨valid.mpr ⟨?_, short⟩, List.getLast?_concat⟩
    rw [Name.stem_of_fed]
    exact Reference.names_token_iff.mp found
  · rintro tree path read catalog loaded definition member rfl
    exact free.mpr (Catalog.isChecked_of_load loaded definition member).1

/-- A name of underscores alone passes and can be referred to, beside word characters and at the end of a prompt. -/
theorem accepted_name_of_underscores_referable :
    let name := "__".toList
    (Name.validate name).isValid = true ∧ Reference.names (Reference.token name) = [name] ∧
      ∃ operations, ∃ item ∈ (Store.final {} operations).items, item.name = name := by
  intro name
  obtain ⟨word, _, unfed, _, stored, _⟩ := accepted_names_referable_but_for_line_feed name
  have found : Reference.names (Reference.token name) = [name] := word.mpr (by simp [name, Text.isWordChar])
  obtain ⟨passed, _⟩ := unfed.mpr ⟨by decide, found⟩
  exact ⟨passed, found, stored.mp passed⟩

/-- A letter with a line feed behind it passes and is stored, though it is not made of word characters, its token is not
read back, and no prompt refers to it. -/
theorem accepted_name_with_line_feed_not_referable :
    let name := "a\n".toList
    (Name.validate name).isValid = true ∧ name.length ≤ Name.maxLength ∧
      (Store.final {} [.save "ann".toList name "x".toList []]).items.map (·.name) = [name] ∧
      ¬ (∀ c ∈ name, Text.isWordChar c = true) ∧ Reference.names (Reference.token name) ≠ [name] ∧
      ∀ prompt, name ∉ Reference.names prompt := by
  intro name
  have foreign : ¬ ∀ c ∈ name, Text.isWordChar c = true := by simp [name, Text.isWordChar]
  have unnamed : ¬ Reference.IsName name := fun named => foreign named.word
  refine ⟨by decide, by decide, by decide +kernel, foreign, ?_, ?_⟩
  · exact fun found => unnamed (Reference.names_token_iff.mp found)
  · exact fun prompt member => unnamed (Reference.exists_prompt_iff.mp ⟨prompt, member⟩)

end PromptTemplate
