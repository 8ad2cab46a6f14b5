import PromptTemplate.Proofs.Reference.Runs
import PromptTemplate.Proofs.Text.Trimming

set_option autoImplicit false

namespace PromptTemplate.Reference

open Text (isWordChar isBlankChar)

/-- What a reference can name: word characters, at least one. -/
structure IsName (name : Text) : Prop where
  nonempty : name ≠ []
  word : ∀ c ∈ name, isWordChar c = true

theorem IsName.not_isBlankChar {name : Text} (named : IsName name) {c : Char} (member : c ∈ name) :
    isBlankChar c = false := by
  by_contra blank
  rw [Bool.not_eq_false] at blank
  have word := named.word c member
  rw [Text.not_isWordChar_of_isBlankChar blank] at word
  cases word

theorem IsName.word_token {name : Text} (named : IsName name) : ∀ c ∈ token name, isWordChar c = true := by
  have underscore : isWordChar '_' = true := rfl
  simp only [token, List.mem_append, List.mem_cons, List.not_mem_nil, or_false]
  rintro c ((rfl | inside) | rfl)
  · exact underscore
  · exact named.word c inside
  · exact underscore

theorem mem_names_iff {text name : Text} : name ∈ names text ↔ name ∈ occurrences text :=
  List.mem_eraseDups

theorem isName_of_enclosed? {run name : Text} (word : ∀ c ∈ run, isWordChar c = true)
    (encloses : enclosed? run = some name) : IsName name := by
  obtain ⟨first, last, bounds, apart, rfl⟩ := enclosed?_eq_some_iff.mp encloses
  obtain ⟨inside, _⟩ := List.getElem?_eq_some_iff.mp bounds.closing
  refine ⟨?_, fun c member => word c (List.mem_of_mem_take (List.mem_of_mem_drop member))⟩
  rw [← List.length_pos_iff, List.length_drop, List.length_take]
  omega

theorem isName_of_mem_names {text name : Text} (member : name ∈ names text) : IsName name := by
  rw [mem_names_iff, occurrences_eq_filterMap_wordRuns] at member
  obtain ⟨run, among, encloses⟩ := List.mem_filterMap.mp member
  exact isName_of_enclosed? (Text.all_isWordChar_of_mem_wordRuns among) encloses

theorem pieces_token {name : Text} (named : IsName name) : pieces (token name) = [.reference name] := by
  have word : ∀ c ∈ name ++ '_' :: [], isWordChar c = true := by
    intro c member
    rcases List.mem_append.mp member with inside | closing
    · exact named.word c inside
    · obtain rfl := List.mem_singleton.mp closing
      rfl
  have found := opened?_of_last named.nonempty word List.not_mem_nil
  rw [token, List.cons_append, pieces_of_opened found, pieces_nil]

theorem pieces_of_blank {text : Text} (blank : ∀ c ∈ text, isBlankChar c = true) :
    pieces text = text.map .literal :=
  pieces_of_not_mem fun member => absurd (blank '_' member) (by decide)

theorem exists_pieces_trim (text : Text) : ∃ before after : Text,
    (∀ c ∈ before, isBlankChar c = true) ∧ (∀ c ∈ after, isBlankChar c = true) ∧
      pieces text = before.map .literal ++ pieces (Text.trim text) ++ after.map .literal := by
  obtain ⟨before, after, whole, leading, trailing⟩ := Text.exists_trim text
  have front : ∀ a ∈ before.getLast?, ∀ c ∈ (Text.trim text).head?,
      isWordChar a = true → isWordChar c = false := by
    intro a last c _ word
    rw [Text.not_isWordChar_of_isBlankChar (leading a (List.mem_of_getLast? last))] at word
    cases word
  have back : ∀ a ∈ (before ++ Text.trim text).getLast?, ∀ c ∈ after.head?,
      isWordChar a = true → isWordChar c = false := by
    intro a _ c first _
    exact Text.not_isWordChar_of_isBlankChar (trailing c (List.mem_of_mem_head? first))
  refine ⟨before, after, leading, trailing, ?_⟩
  conv => lhs; rw [whole, pieces_append back, pieces_append front, pieces_of_blank leading, pieces_of_blank trailing]

/-- Trimming takes no reference away. -/
@[simp] theorem occurrences_trim (text : Text) : occurrences (Text.trim text) = occurrences text := by
  obtain ⟨before, after, _, _, read⟩ := exists_pieces_trim text
  rw [occurrences, occurrences, read, List.filterMap_append, List.filterMap_append, occurrences_of_literals,
    occurrences_of_literals, List.nil_append, List.append_nil]

@[simp] theorem names_trim (text : Text) : names (Text.trim text) = names text := by
  rw [names, occurrences_trim, names]

theorem occurrences_join {separator : Char} (other : isWordChar separator = false) (parts : List Text) :
    occurrences (Text.join [separator] parts) = parts.flatMap occurrences := by
  induction parts with
  | nil => simp [Text.join, occurrences]
  | cons part rest ih =>
      cases rest with
      | nil => simp [Text.join]
      | cons second rest =>
          have read : occurrences (part ++ separator :: Text.join [separator] (second :: rest)) =
              occurrences part ++ occurrences (Text.join [separator] (second :: rest)) := by
            rw [occurrences, pieces_append_cons other, List.filterMap_append, List.filterMap_cons]
            rfl
          rw [Text.join_cons_cons, List.append_assoc, List.singleton_append, read, ih]
          rfl

theorem eraseDups_of_nodup {found : List Text} (distinct : found.Nodup) : found.eraseDups = found := by
  induction found with
  | nil => rfl
  | cons name later ih =>
      obtain ⟨absent, others⟩ := List.nodup_cons.mp distinct
      have kept : (later.filter fun other => !other == name) = later := by
        rw [List.filter_eq_self]
        intro other member
        rw [Bool.not_eq_true', beq_eq_false_iff_ne]
        exact ne_of_mem_of_not_mem member absent
      rw [List.eraseDups_cons, kept, ih others]

theorem names_join_token {found : List Text} (named : ∀ name ∈ found, IsName name) (distinct : found.Nodup) :
    names (Text.join [' '] (found.map token)) = found := by
  have each : (found.map token).flatMap occurrences = found := by
    rw [List.flatMap_map]
    have alone : ∀ name ∈ found, occurrences (token name) = [name] := by
      intro name member
      rw [occurrences, pieces_token (named name member)]
      rfl
    rw [List.flatMap_congr alone, List.flatMap_singleton']
  rw [names, occurrences_join (by decide), each, eraseDups_of_nodup distinct]

theorem occurrences_eq_flatMap_splitOn {separator : Char} (other : isWordChar separator = false)
    (text : Text) : occurrences text = (Text.splitOn separator text).flatMap occurrences := by
  rw [← occurrences_join other, Text.join_splitOn]

theorem occurrences_eq_flatMap_splitSteps (text : Text) :
    occurrences text = (Chain.splitSteps text).flatMap occurrences := by
  have other : isWordChar Chain.bar = false := by decide
  rw [occurrences_eq_flatMap_splitOn other, Chain.splitSteps, List.flatMap_map]
  simp only [occurrences_trim]

theorem names_subset_of_mem_splitSteps {text step : Text} (member : step ∈ Chain.splitSteps text) :
    names step ⊆ names text := by
  intro name among
  rw [mem_names_iff] at among ⊢
  rw [occurrences_eq_flatMap_splitSteps]
  exact List.mem_flatMap_of_mem member among

end PromptTemplate.Reference
