import PromptTemplate.Proofs.Bracket.RoundTrip
import PromptTemplate.Proofs.Text.Words

set_option autoImplicit false

namespace PromptTemplate.Bracket

variable {group : Group} {settings : Settings}

/-- A prompt of a group tells as much of its option as the settings keep. -/
theorem Group.unit_eq_unit_iff (group : Group) {first second : Text} (item : IsOption first) (other : IsOption second) :
    (group.unit true first = group.unit true second ↔ Text.spaceRuns first = Text.spaceRuns second) ∧
      (group.unit false first = group.unit false second ↔ first = second) := by
  constructor
  · exact item.toIsTidy.collapse_around_eq_iff other.toIsTidy group.before group.after
  · show group.before ++ first ++ group.after = group.before ++ second ++ group.after ↔ _
    rw [List.append_left_inj, List.append_right_inj]

theorem Group.getElem?_units {i : Nat} {option : Text} (found : group.options[i]? = some option) (trimming : Bool) :
    (group.options.map (group.unit trimming))[i]? = some (group.unit trimming option) := by
  rw [List.getElem?_map, found, Option.map_some]

/-- Prompts of a group collide only when options do. A group that is read, and has an option but no more than the
limit, makes one prompt for each option, in their order; two of the prompts are the same if and only if their options
are, once every blank run of theirs is one space if white space is trimmed. Without an option there is no prompt. -/
theorem units_collide_with_options {text : Text} (grouped : group? text = .ok group)
    (within : (group.options.length : Int) ≤ settings.maxBracketOptions) :
    (group.options = [] → group.units? settings = .error .noUsableOption) ∧
      (group.options ≠ [] → ∃ units, group.units? settings = .ok units ∧ units.length = group.options.length ∧
        (∀ (i : Nat) (option : Text), group.options[i]? = some option → units[i]? = some
          (if settings.trimWhitespace then Text.trim (Text.spaceRuns (group.before ++ option ++ group.after))
            else group.before ++ option ++ group.after)) ∧
        ∀ (i j : Nat) (first second : Text), group.options[i]? = some first → group.options[j]? = some second →
          (settings.trimWhitespace = true →
            (units[i]? = units[j]? ↔ Text.spaceRuns first = Text.spaceRuns second)) ∧
          (settings.trimWhitespace = false → (units[i]? = units[j]? ↔ first = second))) := by
  refine ⟨Group.units?_of_no_option settings, fun present => ?_⟩
  refine ⟨_, Group.units?_eq_ok_iff.mpr ⟨present, within, rfl⟩, List.length_map _, ?_, ?_⟩
  · intro i option found
    rw [Group.getElem?_units found, Group.unit, Text.collapse_eq_trim_spaceRuns]
  · intro i j first second found other
    have item := isOption_of_mem_options grouped (List.mem_of_getElem? found)
    have otherItem := isOption_of_mem_options grouped (List.mem_of_getElem? other)
    have told := group.unit_eq_unit_iff item otherItem
    rw [Group.getElem?_units found, Group.getElem?_units other, Option.some_inj]
    constructor
    · intro trimming
      rw [trimming]
      exact told.1
    · intro keeping
      rw [keeping]
      exact told.2

/-- Options that differ in their white space only make one prompt, although they are glued to what stands before
them. -/
theorem units_collide_over_tabulator :
    let text := "a[x\ty, x  y, z] b".toList
    let group : Group := ⟨"a".toList, " b".toList, ["x\ty".toList, "x  y".toList, "z".toList], "x\ty, x  y, z".toList⟩
    group? text = .ok group ∧ (group.options.length : Int) ≤ ({} : Settings).maxBracketOptions ∧
      ∃ units, group.units? {} = .ok units ∧ units.length = 3 ∧ units[0]? = units[1]? ∧ units[0]? ≠ units[2]? := by
  intro text group
  have grouped : group? text = .ok group := by
    simp only [text, group]
    cbv
  have within : (group.options.length : Int) ≤ ({} : Settings).maxBracketOptions := by decide
  have same : Text.spaceRuns "x\ty".toList = Text.spaceRuns "x  y".toList := by decide +kernel
  have apart : Text.spaceRuns "x\ty".toList ≠ Text.spaceRuns "z".toList := by decide +kernel
  obtain ⟨_, made⟩ := units_collide_with_options grouped within
  obtain ⟨units, succeeded, counted, _, collide⟩ := made (List.cons_ne_nil _ _)
  refine ⟨grouped, within, units, succeeded, counted, ?_, ?_⟩
  · exact ((collide 0 1 _ _ rfl rfl).1 rfl).mpr same
  · exact fun equal => apart (((collide 0 2 _ _ rfl rfl).1 rfl).mp equal)

/-- A comma between brackets is read as a group without options, which are not too many, and no prompt is made. -/
theorem no_units_of_comma :
    let group : Group := ⟨[], [], [], [',']⟩
    group? "[,]".toList = .ok group ∧ (group.options.length : Int) ≤ ({} : Settings).maxBracketOptions ∧
      ¬ ∃ units, group.units? {} = .ok units ∧ units.length = group.options.length := by
  intro group
  refine ⟨by cbv, by decide, ?_⟩
  rintro ⟨units, made, _⟩
  cases made

end PromptTemplate.Bracket
