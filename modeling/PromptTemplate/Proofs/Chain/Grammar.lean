import Mathlib
import PromptTemplate.Proofs.Kind.Reading
import PromptTemplate.Proofs.Text.Trimming

set_option autoImplicit false

namespace PromptTemplate.Chain

/-- A text cut at its bars: the segments joined with bars between them are the text, and none of them has a bar. -/
structure IsCut (text : Text) (segments : List Text) : Prop where
  whole : Text.join [bar] segments = text
  nonempty : segments ≠ []
  unbarred : ∀ segment ∈ segments, bar ∉ segment

/-- The verdicts on a text with bars. Adjacent bars count before blank segments, of which the first is told, and these
before the number of segments. -/
inductive Verdict (maxSteps : Int) (text : Text) (segments : List Text) : Validation → Prop where
  | sound (filled : ∀ segment ∈ segments, Text.isBlank segment = false) (few : (segments.length : Int) ≤ maxSteps) :
    Verdict maxSteps text segments { isValid := true }
  | doubled (adjacent : [bar, bar] <:+: text) : Verdict maxSteps text segments
      { isValid := false
        error := some "Double pipes (||) found"
        suggestion := some "Use single | to separate steps" }
  | blankStep (apart : ¬ [bar, bar] <:+: text) {before after : List Text} {segment : Text}
      (split : segments = before ++ segment :: after) (filled : ∀ earlier ∈ before, Text.isBlank earlier = false)
      (blank : Text.isBlank segment = true) : Verdict maxSteps text segments
      { isValid := false
        error := some s!"Empty step found at position {before.length + 1}"
        suggestion := some "Remove empty steps or add content between | operators" }
  | tooMany (filled : ∀ segment ∈ segments, Text.isBlank segment = false) (many : maxSteps < segments.length) :
    Verdict maxSteps text segments
      { isValid := false
        error := some s!"Too many steps: {segments.length}"
        suggestion := some s!"Split into smaller pipelines (at most {maxSteps} steps)" }

/-- A chain that is read: its units are the readings of the trimmed segments, one for each, in order. -/
structure IsReading (maxSteps : Int) (text : Text) (units : List UnitKind) : Prop where
  each : (splitSteps text).map UnitKind.ofText? = units.map .ok
  texts : units.map UnitKind.text = splitSteps text
  two_le : 2 ≤ units.length
  le_limit : (units.length : Int) ≤ maxSteps
  tidy : ∀ unit ∈ units, Text.IsTidy unit.text
  unbarred : ∀ unit ∈ units, bar ∉ unit.text

/-! ### Segments -/

theorem isCut_iff {text : Text} {segments : List Text} : IsCut text segments ↔ segments = Text.splitOn bar text := by
  constructor
  · rintro ⟨rfl, nonempty, unbarred⟩
    exact (Text.splitOn_join nonempty unbarred).symm
  · rintro rfl
    exact ⟨Text.join_splitOn bar text, Text.splitOn_ne_nil bar text, fun _ member => Text.not_mem_of_mem_splitOn member⟩

theorem hasDoubled_iff {text : Text} : hasDoubled text = true ↔ [bar, bar] <:+: text := by
  induction text with
  | nil => simp [hasDoubled]
  | cons first rest ih =>
      rw [List.infix_cons_iff, ← ih]
      cases rest with
      | nil => simp [hasDoubled]
      | cons second others =>
          simp only [hasDoubled, Bool.or_eq_true, Bool.and_eq_true, beq_iff_eq, List.cons_prefix_cons, List.nil_prefix,
            and_true]
          rw [@eq_comm _ bar first, @eq_comm _ bar second]

/-- Between adjacent bars stands an empty segment. -/
theorem nil_mem_splitOn_of_adjacent {text : Text} (adjacent : [bar, bar] <:+: text) : [] ∈ Text.splitOn bar text := by
  obtain ⟨before, after, rfl⟩ := adjacent
  have regrouped : before ++ [bar, bar] ++ after = before ++ bar :: (bar :: after) := by simp
  rw [regrouped, Text.splitOn_append_cons, Text.splitOn_cons_separator]
  exact List.mem_append_right _ List.mem_cons_self

theorem not_adjacent_of_filled {text : Text}
    (filled : ∀ segment ∈ Text.splitOn bar text, Text.isBlank segment = false) : ¬ [bar, bar] <:+: text := by
  intro adjacent
  cases filled [] (nil_mem_splitOn_of_adjacent adjacent)

theorem firstBlank?_append {before : List Text} {segment : Text} (position : Nat) (after : List Text)
    (filled : ∀ earlier ∈ before, Text.isBlank earlier = false) (blank : Text.isBlank segment = true) :
    firstBlank? position (before ++ segment :: after) = some (before.length + position) := by
  induction before generalizing position with
  | nil => simp only [List.nil_append, firstBlank?, blank, ↓reduceIte, List.length_nil, Nat.zero_add]
  | cons earlier before ih =>
      rw [List.forall_mem_cons] at filled
      have further : before.length + (position + 1) = (earlier :: before).length + position := by
        rw [List.length_cons]
        omega
      rw [List.cons_append, firstBlank?, filled.1, ih (position + 1) filled.2, further]
      rfl

theorem filled_or_exists_first_blank (segments : List Text) :
    (∀ segment ∈ segments, Text.isBlank segment = false) ∨
      ∃ before segment after, segments = before ++ segment :: after ∧
        (∀ earlier ∈ before, Text.isBlank earlier = false) ∧ Text.isBlank segment = true := by
  cases found : segments.find? Text.isBlank with
  | none => exact Or.inl fun segment member => by simpa using List.find?_eq_none.mp found segment member
  | some segment =>
      obtain ⟨blank, before, after, split, filled⟩ := List.find?_eq_some_iff_append.mp found
      exact Or.inr ⟨before, segment, after, split, fun earlier member => by simpa using filled earlier member, blank⟩

/-! ### The check -/

section

variable {maxSteps : Int} {text : Text}

theorem fault?_of_adjacent (barred : bar ∈ text) (adjacent : [bar, bar] <:+: text) :
    fault? maxSteps text = some .doubled := by
  have present : ¬ (!text.contains bar) = true := by simpa using barred
  rw [fault?, if_neg present, if_pos (hasDoubled_iff.mpr adjacent)]

theorem fault?_of_apart (barred : bar ∈ text) (apart : ¬ [bar, bar] <:+: text) :
    fault? maxSteps text =
      match firstBlank? 1 (Text.splitOn bar text) with
      | some position => some (.blankStep position)
      | none =>
        if maxSteps < (Text.splitOn bar text).length then some (.tooMany (Text.splitOn bar text).length maxSteps)
        else none := by
  have present : ¬ (!text.contains bar) = true := by simpa using barred
  have single : ¬ hasDoubled text = true := by rwa [hasDoubled_iff]
  rw [fault?]
  exact (if_neg present).trans (if_neg single)

theorem fault?_of_filled (barred : bar ∈ text)
    (filled : ∀ segment ∈ Text.splitOn bar text, Text.isBlank segment = false) :
    fault? maxSteps text =
      if maxSteps < (Text.splitOn bar text).length then some (.tooMany (Text.splitOn bar text).length maxSteps)
      else none := by
  rw [fault?_of_apart barred (not_adjacent_of_filled filled), (firstBlank?_eq_none_iff 1 _).mpr filled]

theorem exists_verdict (maxSteps : Int) (text : Text) (segments : List Text) :
    ∃ verdict, Verdict maxSteps text segments verdict := by
  rcases filled_or_exists_first_blank segments with filled | ⟨before, segment, after, split, filled, blank⟩
  · by_cases few : (segments.length : Int) ≤ maxSteps
    · exact ⟨_, .sound filled few⟩
    · exact ⟨_, .tooMany filled (by omega)⟩
  · by_cases adjacent : [bar, bar] <:+: text
    · exact ⟨_, .doubled adjacent⟩
    · exact ⟨_, .blankStep adjacent split filled blank⟩

theorem Verdict.validate_eq (barred : bar ∈ text) {verdict : Validation}
    (judged : Verdict maxSteps text (Text.splitOn bar text) verdict) : validate maxSteps text = verdict := by
  rw [validate]
  cases judged with
  | sound filled few =>
      rw [fault?_of_filled barred filled, if_neg (by omega)]
      rfl
  | doubled adjacent =>
      rw [fault?_of_adjacent barred adjacent]
      rfl
  | blankStep apart split filled blank =>
      rw [fault?_of_apart barred apart, split, firstBlank?_append 1 _ filled blank]
      rfl
  | tooMany filled many =>
      rw [fault?_of_filled barred filled, if_pos many]
      rfl

theorem validate_eq_iff (barred : bar ∈ text) {verdict : Validation} :
    validate maxSteps text = verdict ↔ Verdict maxSteps text (Text.splitOn bar text) verdict := by
  constructor
  · rintro rfl
    obtain ⟨verdict, judged⟩ := exists_verdict maxSteps text (Text.splitOn bar text)
    exact judged.validate_eq barred ▸ judged
  · exact Verdict.validate_eq barred

theorem isValid_validate_iff (barred : bar ∈ text) : (validate maxSteps text).isValid = true ↔
    (∀ segment ∈ Text.splitOn bar text, Text.isBlank segment = false) ∧
      ((Text.splitOn bar text).length : Int) ≤ maxSteps := by
  constructor
  · intro valid
    generalize found : validate maxSteps text = verdict at valid
    cases (validate_eq_iff barred).mp found with
    | sound filled few => exact ⟨filled, few⟩
    | _ => cases valid
  · rintro ⟨filled, few⟩
    rw [(Verdict.sound filled few).validate_eq barred]

theorem Fault.message_eq_doubled_iff {fault : Fault} :
    fault.message = "Double pipes (||) found" ↔ fault = .doubled := by
  constructor
  · intro told
    -- The first letters of the three messages differ.
    have first := congrArg (fun message => message.toList.head?) told
    cases fault with
    | doubled => rfl
    | blankStep position =>
        change ("Empty step found at position " ++ toString position).toList.head? = some 'D' at first
        rw [String.toList_append] at first
        cases first
    | tooMany count limit =>
        change ("Too many steps: " ++ toString count).toList.head? = some 'D' at first
        rw [String.toList_append] at first
        cases first
  · rintro rfl
    rfl

theorem error_eq_doubled_iff (barred : bar ∈ text) :
    (validate maxSteps text).error = some "Double pipes (||) found" ↔ [bar, bar] <:+: text := by
  constructor
  · intro told
    generalize found : validate maxSteps text = verdict at told
    cases (validate_eq_iff barred).mp found with
    | sound filled few => cases told
    | doubled adjacent => exact adjacent
    | @blankStep apart before after segment split filled blank =>
        cases Fault.message_eq_doubled_iff.mp
          (show (Fault.blankStep (before.length + 1)).message = _ from Option.some_inj.mp told)
    | tooMany filled many =>
        cases Fault.message_eq_doubled_iff.mp
          (show (Fault.tooMany (Text.splitOn bar text).length maxSteps).message = _ from Option.some_inj.mp told)
  · intro adjacent
    rw [(Verdict.doubled adjacent).validate_eq barred]

end

/-! ### Reading -/

theorem exists_reading_of_ofText? {maxSteps : Int} {text : Text} {kind : Kind} (barred : bar ∈ text)
    (read : Kind.ofText? maxSteps text = .ok kind) :
    ∃ units, kind = .chain text units ∧ IsReading maxSteps text units := by
  rcases Kind.cases_of_ofText? read with ⟨_, unbarred, _, _⟩ | ⟨units, _, sound, each, rfl⟩
  · exact absurd barred unbarred
  · have texts := UnitKind.map_text_of_read each
    have count : units.length = (splitSteps text).length := by
      rw [← texts, List.length_map]
    obtain ⟨two, few⟩ := length_splitSteps_of_sound barred sound
    have member : ∀ unit ∈ units, unit.text ∈ splitSteps text := by
      intro unit among
      exact texts ▸ List.mem_map_of_mem among
    refine ⟨units, rfl, each, texts, by omega, by omega, ?_, ?_⟩
    · intro unit among
      obtain ⟨segment, inside, trimmed⟩ := List.mem_map.mp (member unit among)
      have filled := (segments_of_sound barred sound).1 segment inside
      rw [← trimmed]
      refine ⟨Text.trim_trim segment, ?_⟩
      rw [ne_eq, Text.trim_eq_nil_iff, ← List.all_eq_true]
      exact ne_true_of_eq_false filled
    · exact fun unit among => bar_not_mem_of_mem_splitSteps (member unit among)

/-- The grammar of chains. A text with bars is cut in one way at them. The check of its steps comes to the verdict of
the grammar under any limit, so that it is valid if and only if no segment is blank and there are no more segments than
the limit, and adjacent bars are reported if and only if there are some. The steps are the trimmed segments, and
whatever the text is read as is a chain of their readings. -/
theorem chains_by_grammar {text : Text} (barred : bar ∈ text) :
    ∃ segments, (∀ others, IsCut text others ↔ others = segments) ∧
      (∀ maxSteps verdict, validate maxSteps text = verdict ↔ Verdict maxSteps text segments verdict) ∧
      (∀ maxSteps : Int, (validate maxSteps text).isValid = true ↔
        (∀ segment ∈ segments, Text.isBlank segment = false) ∧ segments.length ≤ maxSteps) ∧
      (∀ maxSteps, (validate maxSteps text).error = some "Double pipes (||) found" ↔ [bar, bar] <:+: text) ∧
      splitSteps text = segments.map Text.trim ∧
      ∀ maxSteps kind, Kind.ofText? maxSteps text = .ok kind →
        ∃ units, kind = .chain text units ∧ IsReading maxSteps text units := by
  refine ⟨Text.splitOn bar text, fun _ => isCut_iff, ?_, ?_, ?_, rfl, ?_⟩
  · exact fun maxSteps verdict => validate_eq_iff barred
  · exact fun maxSteps => isValid_validate_iff barred
  · exact fun maxSteps => error_eq_doubled_iff barred
  · exact fun maxSteps kind read => exists_reading_of_ofText? barred read

/-- A step that is written twice is read twice, and between bars with a blank character the third segment of four is
told before their number. -/
theorem chain_of_equal_steps_and_blank_third :
    let text := "ink |\u2003[red, blue] sky| ink ".toList
    let blank := "a|b|\u3000|".toList
    (bar ∈ text ∧ ∃ segments, IsCut text segments ∧ segments.length = 3 ∧ (validate 3 text).isValid = true ∧
      ∃ units, Kind.ofText? 3 text = .ok (.chain text units) ∧ IsReading 3 text units) ∧
    bar ∈ blank ∧ (validate 2 blank).error = some s!"Empty step found at position {3}" := by
  intro text blank
  have barred : bar ∈ text := by decide
  have bars : bar ∈ blank := by decide
  obtain ⟨segments, cut, _, valid, _, _, read⟩ := chains_by_grammar barred
  obtain ⟨others, recut, judged, _⟩ := chains_by_grammar bars
  obtain rfl := (cut ["ink ".toList, "\u2003[red, blue] sky".toList, " ink ".toList]).mp
    ⟨by decide, by decide, by decide⟩
  obtain rfl := (recut ["a".toList, "b".toList, "\u3000".toList, []]).mp ⟨by decide, by decide, by decide⟩
  have reading : ∃ kind, Kind.ofText? 3 text = .ok kind := by
    simp only [text]
    exact ⟨_, by cbv⟩
  obtain ⟨kind, found⟩ := reading
  obtain ⟨units, rfl, steps⟩ := read 3 kind found
  refine ⟨⟨barred, _, (cut _).mpr rfl, rfl, (valid 3).mpr ⟨by decide, by decide⟩, units, found, steps⟩, bars, ?_⟩
  have apart : ¬ [bar, bar] <:+: blank := fun adjacent => absurd (hasDoubled_iff.mpr adjacent) (by decide)
  have split : ["a".toList, "b".toList, "\u3000".toList, []] = ["a".toList, "b".toList] ++ "\u3000".toList :: [[]] := rfl
  have third := (judged 2 _).mpr (.blankStep apart split (by decide) (by decide))
  rw [third]
  rfl

end PromptTemplate.Chain
