import PromptTemplate.Kind
import PromptTemplate.Proofs.Text.Splitting

set_option autoImplicit false

namespace PromptTemplate

namespace UnitKind

theorem text_of_ofText? {text : Text} {unit : UnitKind} (read : ofText? text = .ok unit) :
    unit.text = text := by
  simp only [ofText?] at read
  split at read
  · cases read
    rfl
  · split at read
    · cases read
    · split at read
      · cases grouped : Bracket.group? text with
        | error fault =>
            rw [grouped] at read
            cases read
        | ok group =>
            rw [grouped] at read
            cases read
            rfl
      · cases read
        rfl

theorem ofText?_eq_wildcarded_iff {text read : Text} {names : List Text} :
    ofText? text = .ok (.wildcarded read names) ↔
      Reference.names text ≠ [] ∧ read = text ∧ names = Reference.names text := by
  cases found : Reference.names text with
  | nil =>
      simp only [ofText?, found, ne_eq, not_true_eq_false, false_and, iff_false]
      split
      · simp
      · split
        · cases Bracket.group? text <;> simp [Except.map]
        · simp
  | cons name others =>
      simp only [ofText?, found, Except.ok.injEq, wildcarded.injEq, ne_eq, reduceCtorEq,
        not_false_eq_true, true_and]
      exact and_congr eq_comm eq_comm

theorem ofSteps?_eq_ok {position : Nat} {texts : List Text} {kinds : List UnitKind} :
    ofSteps? position texts = .ok kinds ↔ texts.map ofText? = kinds.map .ok := by
  induction texts generalizing position kinds with
  | nil => cases kinds <;> simp [ofSteps?]
  | cons text texts ih =>
      rw [List.map_cons, ofSteps?]
      cases read : ofText? text with
      | error fault => cases kinds <;> simp
      | ok unit =>
          cases kinds with
          | nil => cases ofSteps? (position + 1) texts <;> simp [Except.map]
          | cons kind kinds =>
              rw [List.map_cons, List.cons.injEq, Except.ok.injEq, ← @ih (position + 1) kinds]
              cases ofSteps? (position + 1) texts <;> simp [Except.map]

theorem map_text_of_read {texts : List Text} {kinds : List UnitKind}
    (read : texts.map ofText? = kinds.map .ok) : kinds.map text = texts := by
  induction texts generalizing kinds with
  | nil =>
      obtain rfl : kinds = [] := List.map_eq_nil_iff.mp read.symm
      rfl
  | cons text texts ih =>
      cases kinds with
      | nil => cases read
      | cons kind kinds =>
          rw [List.map_cons, List.map_cons, List.cons.injEq] at read
          rw [List.map_cons, text_of_ofText? read.1, ih read.2]

theorem exists_kinds_of_readable {texts : List Text}
    (readable : ∀ text ∈ texts, ∃ unit, ofText? text = .ok unit) :
    ∃ kinds : List UnitKind, texts.map ofText? = kinds.map .ok := by
  induction texts with
  | nil => exact ⟨[], rfl⟩
  | cons text texts ih =>
      rw [List.forall_mem_cons] at readable
      obtain ⟨⟨unit, read⟩, others⟩ := readable
      obtain ⟨kinds, rest⟩ := ih others
      exact ⟨unit :: kinds, by rw [List.map_cons, read, rest, List.map_cons]⟩

theorem ofSteps?_append_malformed {position : Nat} {before after : List Text} {step : Text}
    {fault : Bracket.Fault} (readable : ∀ earlier ∈ before, ∃ unit, ofText? earlier = .ok unit)
    (malformed : ofText? step = .error fault) :
    ofSteps? position (before ++ step :: after) =
      .error (.atStep (position + before.length) (.bracket fault)) := by
  induction before generalizing position with
  | nil => simp only [List.nil_append, ofSteps?, malformed, List.length_nil, Nat.add_zero]
  | cons earlier before ih =>
      rw [List.forall_mem_cons] at readable
      obtain ⟨⟨unit, read⟩, others⟩ := readable
      simp only [List.cons_append, ofSteps?, read, ih others, List.length_cons, Nat.add_assoc,
        Nat.add_comm 1]
      rfl

end UnitKind

namespace Kind

theorem ofText?_of_unbarred (maxSteps : Int) {text : Text} (unbarred : Chain.bar ∉ text) :
    ofText? maxSteps text =
      match UnitKind.ofText? text with
      | .error fault => .error (.bracket fault)
      | .ok unit => .ok (.single unit) := by
  have absent : text.contains Chain.bar = false := by simpa using unbarred
  cases read : UnitKind.ofText? text <;>
    simp only [ofText?, absent, read, Bool.false_eq_true, ↓reduceIte]

theorem ofText?_of_barred (maxSteps : Int) {text : Text} (barred : Chain.bar ∈ text) :
    ofText? maxSteps text =
      match Chain.fault? maxSteps text with
      | some fault => .error (.chain fault)
      | none => (UnitKind.ofSteps? 1 (Chain.splitSteps text)).map (.chain text) := by
  have present : text.contains Chain.bar = true := by simpa using barred
  cases sound : Chain.fault? maxSteps text <;> simp only [ofText?, present, sound, ↓reduceIte]

theorem cases_of_ofText? {maxSteps : Int} {text : Text} {kind : Kind}
    (read : ofText? maxSteps text = .ok kind) :
    (∃ unit, Chain.bar ∉ text ∧ UnitKind.ofText? text = .ok unit ∧ kind = .single unit) ∨
      ∃ kinds, Chain.bar ∈ text ∧ Chain.fault? maxSteps text = none ∧
        (Chain.splitSteps text).map UnitKind.ofText? = kinds.map .ok ∧ kind = .chain text kinds := by
  by_cases barred : Chain.bar ∈ text
  · rw [ofText?_of_barred _ barred] at read
    cases sound : Chain.fault? maxSteps text with
    | some fault =>
        rw [sound] at read
        cases read
    | none =>
        rw [sound] at read
        cases steps : UnitKind.ofSteps? 1 (Chain.splitSteps text) with
        | error issue =>
            rw [steps] at read
            cases read
        | ok kinds =>
            rw [steps] at read
            cases read
            exact Or.inr ⟨kinds, barred, rfl, UnitKind.ofSteps?_eq_ok.mp steps, rfl⟩
  · rw [ofText?_of_unbarred _ barred] at read
    cases alone : UnitKind.ofText? text with
    | error fault =>
        rw [alone] at read
        cases read
    | ok unit =>
        rw [alone] at read
        cases read
        exact Or.inl ⟨unit, barred, rfl, rfl⟩

end Kind

namespace Chain

theorem bar_not_mem_of_mem_splitSteps {text step : Text} (member : step ∈ splitSteps text) :
    bar ∉ step := by
  obtain ⟨segment, among, rfl⟩ := List.mem_map.mp member
  intro barred
  exact Text.not_mem_of_mem_splitOn among (Text.mem_of_mem_trim barred)

theorem splitSteps_ne_nil (text : Text) : splitSteps text ≠ [] := by
  rw [splitSteps, ne_eq, List.map_eq_nil_iff]
  exact Text.splitOn_ne_nil bar text

theorem firstBlank?_eq_none_iff (position : Nat) (segments : List Text) :
    firstBlank? position segments = none ↔ ∀ segment ∈ segments, Text.isBlank segment = false := by
  induction segments generalizing position with
  | nil => simp [firstBlank?]
  | cons segment rest ih =>
      rw [List.forall_mem_cons, ← ih (position + 1), firstBlank?]
      cases Text.isBlank segment <;> simp

/-- What the check of a chain guarantees for its segments. -/
theorem segments_of_sound {maxSteps : Int} {text : Text} (barred : bar ∈ text)
    (sound : fault? maxSteps text = none) :
    (∀ segment ∈ Text.splitOn bar text, Text.isBlank segment = false) ∧
      ((Text.splitOn bar text).length : Int) ≤ maxSteps := by
  have present : (!text.contains bar) = false := by simpa using barred
  simp only [fault?, present, Bool.false_eq_true, ↓reduceIte] at sound
  split at sound
  · cases sound
  · split at sound
    · cases sound
    · next filled =>
        split at sound
        · cases sound
        · exact ⟨(firstBlank?_eq_none_iff _ _).mp filled, by omega⟩

/-- A chain that has passed its check has two steps at least, and no more than the limit. -/
theorem length_splitSteps_of_sound {maxSteps : Int} {text : Text} (barred : bar ∈ text)
    (sound : fault? maxSteps text = none) :
    2 ≤ (splitSteps text).length ∧ ((splitSteps text).length : Int) ≤ maxSteps := by
  rw [splitSteps, List.length_map]
  exact ⟨Text.two_le_length_splitOn barred, (segments_of_sound barred sound).2⟩

end Chain

end PromptTemplate
