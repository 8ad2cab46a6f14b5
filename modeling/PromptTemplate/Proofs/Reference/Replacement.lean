import PromptTemplate.Proofs.Reference.Substitution

set_option autoImplicit false

namespace PromptTemplate

namespace Text

/-- A replacement of characters that leaves word characters alone, makes no others, and keeps blank characters apart
from visible ones. -/
structure SparesWords (replace : Char → Char) : Prop where
  word : ∀ c, isWordChar c = true → replace c = c
  other : ∀ c, isWordChar c = false → isWordChar (replace c) = false
  blank : ∀ c, isBlankChar (replace c) = isBlankChar c

namespace SparesWords

variable {replace : Char → Char} (spares : SparesWords replace)

include spares

theorem isWordChar_replace (c : Char) : isWordChar (replace c) = isWordChar c := by
  cases kept : isWordChar c with
  | true => rw [spares.word c kept, kept]
  | false => exact spares.other c kept

theorem map_of_word {text : Text} (word : ∀ c ∈ text, isWordChar c = true) : text.map replace = text := by
  rw [List.map_congr_left fun c member => spares.word c (word c member), List.map_id']

theorem trimStart_map (text : Text) : trimStart (text.map replace) = (trimStart text).map replace := by
  have same : isBlankChar ∘ replace = isBlankChar := funext spares.blank
  rw [trimStart, List.dropWhile_map, same, trimStart]

theorem trimEnd_map (text : Text) : trimEnd (text.map replace) = (trimEnd text).map replace := by
  have front := spares.trimStart_map text.reverse
  rw [trimStart, trimStart] at front
  rw [trimEnd, ← List.map_reverse, front, ← List.map_reverse, trimEnd]

theorem trim_map (text : Text) : trim (text.map replace) = (trim text).map replace := by
  rw [trim, spares.trimStart_map, spares.trimEnd_map, trim]

end SparesWords

end Text

/-- A piece with its characters replaced; the name of a reference stays. -/
def Piece.replaced (replace : Char → Char) : Piece → Piece
  | .literal c => .literal (replace c)
  | .reference name => .reference name

namespace Reference

open Text (isWordChar SparesWords)

variable {replace : Char → Char} (spares : SparesWords replace)

include spares

/-- A reference is read from the run behind its underscore, in which nothing is replaced. -/
theorem opened?_map (text : Text) :
    opened? (text.map replace) = (opened? text).map fun found => (found.1, found.2.map replace) := by
  have same : isWordChar ∘ replace = isWordChar := funext spares.isWordChar_replace
  have word : ∀ c ∈ text.takeWhile isWordChar, isWordChar c = true := fun c member => List.mem_takeWhile_imp member
  have run : (text.map replace).takeWhile isWordChar = text.takeWhile isWordChar := by
    rw [List.takeWhile_map, same, spares.map_of_word word]
  simp only [opened?, run, List.dropWhile_map, same]
  split
  · next c name after cut =>
      have behind : ∀ d ∈ after, isWordChar d = true := fun d member =>
        word d (cutLast_eq_some cut ▸ List.mem_append_right _ (List.mem_cons_of_mem _ member))
      simp [spares.map_of_word behind]
  · rfl

/-- A text is read as before, with its literal characters replaced. -/
theorem pieces_map (text : Text) : pieces (text.map replace) = (pieces text).map (Piece.replaced replace) := by
  match text with
  | [] => rw [List.map_nil, pieces_nil, List.map_nil]
  | c :: rest =>
      rw [List.map_cons]
      by_cases underscore : c = '_'
      · subst underscore
        have opening := opened?_map spares rest
        rw [spares.word '_' rfl]
        cases found : opened? rest with
        | none =>
            rw [found] at opening
            rw [pieces_of_unopened opening, pieces_of_unopened found, pieces_map rest, List.map_cons, Piece.replaced,
              spares.word '_' rfl]
        | some reference =>
            obtain ⟨name, after⟩ := reference
            have shorter := length_lt_of_opened? found
            rw [found] at opening
            rw [pieces_of_opened opening, pieces_of_opened found, pieces_map after]
            rfl
      · have other : replace c ≠ '_' := by
          intro same
          have word : isWordChar c = true := by rw [← spares.isWordChar_replace, same]; rfl
          exact underscore ((spares.word c word).symm.trans same)
        rw [pieces_cons_of_ne other, pieces_cons_of_ne underscore, pieces_map rest]
        rfl
termination_by text.length
decreasing_by
  all_goals simp only [List.length_cons]
  all_goals omega

theorem occurrences_map (text : Text) : occurrences (text.map replace) = occurrences text := by
  rw [occurrences, pieces_map spares, List.filterMap_map, occurrences]
  congr 1
  funext piece
  cases piece <;> rfl

theorem names_map (text : Text) : names (text.map replace) = names text := by
  rw [names, occurrences_map spares, names]

theorem map_token {name : Text} (named : IsName name) : (token name).map replace = token name :=
  spares.map_of_word named.word_token

theorem substitute_map {text : Text} {picks : Text → Option Text}
    (kept : ∀ name ∈ names text, ∀ value, picks name = some value → value.map replace = value) :
    substitute picks (text.map replace) = (substitute picks text).map replace := by
  rw [substitute, pieces_map spares, List.flatMap_map, substitute, List.map_flatMap]
  apply List.flatMap_congr
  refine forall_mem_pieces (fun _ => rfl) fun name named => ?_
  change (picks name).getD (token name) = ((picks name).getD (token name)).map replace
  cases picked : picks name with
  | none => exact (map_token spares (isName_of_mem_names named)).symm
  | some value => exact (kept name named value picked).symm

end Reference

end PromptTemplate
