import PromptTemplate.Proofs.Bracket.Collision
import PromptTemplate.Proofs.Expansion.Parts

set_option autoImplicit false

namespace PromptTemplate.Bracket

variable {settings : Settings} {text : Text}

/-- What is wrong with a group that is not missing was found by the check. -/
theorem group?_eq_error_iff {fault : Fault} (other : fault ≠ .absent) :
    group? text = .error fault ↔ fault? text = some fault := by
  constructor
  · intro refused
    rw [group?] at refused
    split at refused
    · next found => rw [found, Except.error.inj refused]
    · split at refused
      · cases refused
      · exact absurd (Except.error.inj refused).symm other
  · intro found
    rw [group?, found]

/-- A unit that refers to no name is read by its group, and is plain if it has none. -/
theorem ofText?_of_unnamed (unnamed : Reference.names text = []) :
    UnitKind.ofText? text =
      match group? text with
      | .ok group => .ok (.bracketed text group)
      | .error .absent => .ok (.plain text)
      | .error fault => .error fault := by
  cases grouped : group? text with
  | ok group => exact UnitKind.ofText?_eq_bracketed_iff.mpr ⟨unnamed, rfl, grouped⟩
  | error fault =>
      by_cases absent : fault = .absent
      · subst absent
        have free := group?_eq_absent_iff.mp grouped
        have unopened : '[' ∉ text := free.not_mem rfl
        simp [UnitKind.ofText?, unnamed, free.fault?_eq, unopened]
      · have found := (group?_eq_error_iff absent).mp grouped
        simp only [UnitKind.ofText?, unnamed, found]

/-- A text that is expanded by its brackets alone is expanded by its group, and is its own prompt if it has none. -/
theorem expand_by_group (settings : Settings) (text : Text) :
    expand settings text =
      match group? text with
      | .ok group => match group.units? settings with
        | .ok units => units
        | .error _ => []
      | .error .absent => [text]
      | .error _ => [] := by
  by_cases free : IsFree text
  · have plain : ¬ text.any isBracket = true := by simpa [IsFree] using free
    rw [expand, if_neg plain, group?_eq_absent_iff.mpr free]
  · have bracketed : text.any isBracket = true := by simpa [IsFree] using free
    rw [expand, if_pos bracketed]
    cases grouped : group? text with
    | ok group => cases made : group.units? settings <;> simp only [made]
    | error fault =>
        have present : fault ≠ .absent := by
          rintro rfl
          exact free (group?_eq_absent_iff.mp grouped)
        simp only

/-- A text cut at a group that has an option and no more than the limit. -/
structure IsEnumeration (settings : Settings) (text before raw after : Text) : Prop
    extends IsGroup text before raw after where
  present : splitOptions raw ≠ []
  within : ((splitOptions raw).length : Int) ≤ settings.maxBracketOptions

theorem expand_of_free (free : IsFree text) : expand settings text = [text] := by
  rw [expand_by_group, group?_eq_absent_iff.mpr free]

/-- Each option of an enumeration makes a prompt, which is collapsed if white space is trimmed. -/
theorem IsEnumeration.expand_eq {before raw after : Text} (listed : IsEnumeration settings text before raw after) :
    expand settings text = (splitOptions raw).map fun option =>
      if settings.trimWhitespace then Text.trim (Text.spaceRuns (before ++ option ++ after))
      else before ++ option ++ after := by
  have grouped : group? text = .ok ⟨before, after, splitOptions raw, raw⟩ :=
    group?_eq_ok_iff.mpr ⟨listed.toIsGroup, rfl⟩
  have made : Group.units? ⟨before, after, splitOptions raw, raw⟩ settings = .ok _ :=
    Group.units?_eq_ok_iff.mpr ⟨listed.present, listed.within, rfl⟩
  simp only [expand_by_group, grouped, made]
  apply List.map_congr_left
  intro option _
  rw [Group.unit, Text.collapse_eq_trim_spaceRuns]

theorem expand_ne_nil_iff : expand settings text ≠ [] ↔
    IsFree text ∨ ∃ before raw after, IsEnumeration settings text before raw after := by
  constructor
  · intro some
    rw [expand_by_group] at some
    split at some
    · next group grouped =>
        obtain ⟨found, split⟩ := group?_eq_ok_iff.mp grouped
        split at some
        · next units made =>
            obtain ⟨present, within, _⟩ := Group.units?_eq_ok_iff.mp made
            rw [split] at present within
            exact Or.inr ⟨_, _, _, found, present, within⟩
        · exact absurd rfl some
    · next absent => exact Or.inl (group?_eq_absent_iff.mp absent)
    · exact absurd rfl some
  · rintro (free | ⟨before, raw, after, listed⟩)
    · rw [expand_of_free free]
      exact List.cons_ne_nil text []
    · rw [listed.expand_eq, ne_eq, List.map_eq_nil_iff]
      exact listed.present

/-- The engine makes the prompts that the brackets alone make. -/
theorem units_expand_of_unnamed (settings : Settings) (catalog : Catalog) (unbarred : Chain.bar ∉ text)
    (unnamed : Reference.names text = []) :
    (PromptTemplate.expand settings catalog text).units = expand settings text := by
  rw [expand_by_group, PromptTemplate.expand, Kind.ofText?_of_unbarred _ unbarred, ofText?_of_unnamed unnamed]
  cases grouped : group? text with
  | ok group =>
      simp only [Kind.expand, Expansion.ofUnit, UnitKind.expand]
      cases made : group.units? settings <;> rfl
  | error fault => cases fault <;> rfl

/-- The brackets alone and the engine agree. A text without bars that refers to no name has the same prompts either
way: itself if it has no bracket, one for each option of its group if these are not too many, and none if and only if
the engine refuses it, which it does with every other text. -/
theorem brackets_alone_agree (settings : Settings) (catalog : Catalog) (unbarred : Chain.bar ∉ text)
    (unnamed : Reference.names text = []) :
    let whole := PromptTemplate.expand settings catalog text
    expand settings text = whole.units ∧
      (IsFree text → expand settings text = [text]) ∧
      (∀ before raw after, IsEnumeration settings text before raw after →
        expand settings text = (splitOptions raw).map fun option =>
          if settings.trimWhitespace then Text.trim (Text.spaceRuns (before ++ option ++ after))
          else before ++ option ++ after) ∧
      (expand settings text = [] ↔ whole.isValid = false) ∧
      (whole.isValid = true ↔ IsFree text ∨ ∃ before raw after, IsEnumeration settings text before raw after) := by
  intro whole
  have same : whole.units = expand settings text := units_expand_of_unnamed settings catalog unbarred unnamed
  have empty : expand settings text = [] ↔ whole.isValid = false := by
    rw [← same]
    exact (expand_consistent settings catalog text).units_eq_nil_iff
  refine ⟨same.symm, expand_of_free, fun _ _ _ listed => listed.expand_eq, empty, ?_⟩
  rw [← expand_ne_nil_iff, ne_eq, empty, Bool.not_eq_false]

/-- The blank characters around the options and beside the group are collapsed, and a pair the wrong way round is
refused. -/
theorem brackets_alone_agree_on_drinks :
    let settings : Settings := { maxBracketOptions := 2 }
    let drinks := " hot [tea ,\t soup ]\n now".toList
    let reversed := "hot ] tea, soup [ now".toList
    Chain.bar ∉ drinks ∧ Reference.names drinks = [] ∧ Chain.bar ∉ reversed ∧ Reference.names reversed = [] ∧
      (PromptTemplate.expand settings [] drinks).units = ["hot tea now".toList, "hot soup now".toList] ∧
      (PromptTemplate.expand settings [] reversed).isValid = false := by
  intro settings drinks reversed
  have unbarred : Chain.bar ∉ drinks := by decide
  have otherUnbarred : Chain.bar ∉ reversed := by decide
  have unnamed : Reference.names drinks = [] := by
    simp only [drinks]
    cbv
  have otherUnnamed : Reference.names reversed = [] := by
    simp only [reversed]
    cbv
  have outer : IsFree " hot ".toList := by simp [IsFree, isBracket]
  have inner : IsFree "tea ,\t soup ".toList := by simp [IsFree, isBracket]
  have behind : IsFree "\n now".toList := by simp [IsFree, isBracket]
  have listed : IsEnumeration settings drinks " hot ".toList "tea ,\t soup ".toList "\n now".toList :=
    ⟨⟨⟨rfl, outer, inner, behind⟩, by decide⟩, by decide, by decide⟩
  have none : expand settings reversed = [] := by
    simp only [settings, reversed]
    cbv
  obtain ⟨same, _, each, _⟩ := brackets_alone_agree settings [] unbarred unnamed
  obtain ⟨_, _, _, refused, _⟩ := brackets_alone_agree settings [] otherUnbarred otherUnnamed
  refine ⟨unbarred, unnamed, otherUnbarred, otherUnnamed, ?_, refused.mp none⟩
  rw [← same, each _ _ _ listed]
  decide +kernel

end PromptTemplate.Bracket
