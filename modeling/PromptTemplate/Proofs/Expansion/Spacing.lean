import PromptTemplate.Proofs.Chain.Grammar
import PromptTemplate.Proofs.Expansion.Cases

set_option autoImplicit false

namespace PromptTemplate

/-- The kind of a prompt when its chain is written as another text. -/
def Kind.rewritten (text : Text) : Kind → Kind
  | .single unit => .single unit
  | .chain _ steps => .chain text steps

/-- The expansion of a chain when it is written as another text: the prompt is the new text, which the kind keeps, and
all else stays. -/
def Expansion.rewritten (text : Text) (expansion : Expansion) : Expansion :=
  { expansion with prompt := text, kind := expansion.kind.map (Kind.rewritten text) }

@[simp] theorem Text.isBlank_trim (text : Text) : isBlank (trim text) = isBlank text := by
  have empty : trim (trim text) = [] ↔ trim text = [] := by rw [trim_trim]
  rw [trim_eq_nil_iff, trim_eq_nil_iff] at empty
  rw [Bool.eq_iff_iff, isBlank, isBlank, List.all_eq_true, List.all_eq_true]
  exact empty

namespace Chain

/-- Steps written one after the other, with a space on either side of each bar between them. -/
def spaced (steps : List Text) : Text :=
  Text.join [' ', bar, ' '] steps

theorem firstBlank?_map_trim (position : Nat) (segments : List Text) :
    firstBlank? position (segments.map Text.trim) = firstBlank? position segments := by
  induction segments generalizing position with
  | nil => rfl
  | cons segment rest ih => rw [List.map_cons, firstBlank?, firstBlank?, Text.isBlank_trim, ih]

/-- The check looks at the segments as they were written, and finds in them what it would find in the steps. -/
theorem fault?_of_splitSteps {text : Text} (maxSteps : Int) (barred : bar ∈ text) (apart : ¬ [bar, bar] <:+: text) :
    fault? maxSteps text =
      match firstBlank? 1 (splitSteps text) with
      | some position => some (.blankStep position)
      | none =>
        if maxSteps < (splitSteps text).length then some (.tooMany (splitSteps text).length maxSteps) else none := by
  rw [splitSteps, firstBlank?_map_trim, List.length_map]
  exact fault?_of_apart barred apart

section

variable {text other : Text} (barred : bar ∈ text) (apart : ¬ [bar, bar] <:+: text) (otherBarred : bar ∈ other)
  (otherApart : ¬ [bar, bar] <:+: other) (same : splitSteps other = splitSteps text)

include barred apart otherBarred otherApart same

theorem fault?_congr (maxSteps : Int) : fault? maxSteps other = fault? maxSteps text := by
  rw [fault?_of_splitSteps maxSteps otherBarred otherApart, fault?_of_splitSteps maxSteps barred apart, same]

/-- Chains of the same steps are read alike, or are refused for the same reason. -/
theorem ofText?_rewritten (maxSteps : Int) :
    Kind.ofText? maxSteps other = (Kind.ofText? maxSteps text).map (Kind.rewritten other) := by
  rw [Kind.ofText?_of_barred maxSteps otherBarred, Kind.ofText?_of_barred maxSteps barred,
    fault?_congr barred apart otherBarred otherApart same, same]
  cases fault? maxSteps text with
  | some fault => rfl
  | none => cases UnitKind.ofSteps? 1 (splitSteps text) <;> rfl

end

theorem expand_rewritten (settings : Settings) (catalog : Catalog) (text other : Text) (kinds : List UnitKind) :
    expand settings catalog other kinds = (expand settings catalog text kinds).rewritten other := by
  simp only [expand, ofSteps]
  split <;> rfl

/-- The segments of a first step with the lead in front of it, and of the steps behind it, when they are spaced. -/
def spacedSegments (lead first : Text) : List Text → List Text
  | [] => [lead ++ first]
  | second :: rest => (lead ++ first ++ [' ']) :: spacedSegments [' '] second rest

theorem splitOn_spaced {lead first : Text} {rest : List Text} (leading : bar ∉ lead)
    (unbarred : ∀ step ∈ first :: rest, bar ∉ step) :
    Text.splitOn bar (lead ++ spaced (first :: rest)) = spacedSegments lead first rest := by
  induction rest generalizing lead first with
  | nil =>
      have absent : bar ∉ lead ++ first := by simpa [leading] using unbarred
      simp only [spaced, Text.join, List.intersperse_singleton, List.flatten_singleton, Text.splitOn_of_not_mem absent,
        spacedSegments]
  | cons second rest ih =>
      rw [List.forall_mem_cons] at unbarred
      have absent : bar ∉ lead ++ first ++ [' '] := by
        simp only [List.mem_append, not_or]
        exact ⟨⟨leading, unbarred.1⟩, by decide⟩
      have regrouped : lead ++ spaced (first :: second :: rest) =
          (lead ++ first ++ [' ']) ++ bar :: ([' '] ++ spaced (second :: rest)) := by
        simp [spaced, Text.join_cons_cons]
      rw [regrouped, Text.splitOn_append absent, ih (by decide) unbarred.2, spacedSegments]

theorem map_trim_spacedSegments {lead : Text} (leading : ∀ c ∈ lead, Text.isBlankChar c = true) (first : Text)
    (rest : List Text) : (spacedSegments lead first rest).map Text.trim = (first :: rest).map Text.trim := by
  have space : ∀ c ∈ [' '], Text.isBlankChar c = true := List.forall_mem_singleton.mpr (by decide)
  induction rest generalizing lead first with
  | nil =>
      have trimmed := Text.trim_append_of_blank leading first (List.forall_mem_nil _)
      rw [List.append_nil] at trimmed
      simp only [spacedSegments, List.map_cons, List.map_nil, trimmed]
  | cons second rest ih =>
      rw [spacedSegments, List.map_cons, ih space, Text.trim_append_of_blank leading first space]
      rfl

/-- Between two bars stands a space at least, and in front of the first one and behind the last one too. -/
theorem nil_not_mem_spacedSegments {lead first : Text} {rest : List Text} (present : lead ≠ [] ∨ rest ≠ []) :
    [] ∉ spacedSegments lead first rest := by
  induction rest generalizing lead first with
  | nil =>
      have leading : lead ≠ [] := present.resolve_right (by simp)
      simp [spacedSegments, leading]
  | cons second rest ih =>
      rw [spacedSegments, List.mem_cons, not_or]
      exact ⟨by simp, ih (Or.inl (List.cons_ne_nil _ _))⟩

/-- Steps without bars are found again, trimmed. -/
theorem splitSteps_spaced {steps : List Text} (present : steps ≠ []) (unbarred : ∀ step ∈ steps, bar ∉ step) :
    splitSteps (spaced steps) = steps.map Text.trim := by
  obtain ⟨first, rest, rfl⟩ := List.exists_cons_of_ne_nil present
  have cut : Text.splitOn bar (spaced (first :: rest)) = spacedSegments [] first rest :=
    splitOn_spaced List.not_mem_nil unbarred
  rw [splitSteps, cut, map_trim_spacedSegments (List.forall_mem_nil _)]

theorem splitSteps_spaced_of_trimmed {steps : List Text} (present : steps ≠ [])
    (clean : ∀ step ∈ steps, Text.trim step = step ∧ bar ∉ step) : splitSteps (spaced steps) = steps := by
  rw [splitSteps_spaced present fun step member => (clean step member).2,
    List.map_congr_left fun step member => (clean step member).1, List.map_id']

theorem not_adjacent_spaced {steps : List Text} (several : 2 ≤ steps.length) (unbarred : ∀ step ∈ steps, bar ∉ step) :
    ¬ [bar, bar] <:+: spaced steps := by
  match steps, several with
  | first :: second :: rest, _ =>
      intro adjacent
      have cut : Text.splitOn bar (spaced (first :: second :: rest)) = spacedSegments [] first (second :: rest) :=
        splitOn_spaced List.not_mem_nil unbarred
      have empty := nil_mem_splitOn_of_adjacent adjacent
      rw [cut] at empty
      exact nil_not_mem_spacedSegments (Or.inr (List.cons_ne_nil second rest)) empty

theorem bar_mem_spaced {steps : List Text} (several : 2 ≤ steps.length) : bar ∈ spaced steps := by
  match steps, several with
  | first :: second :: rest, _ => simp [spaced, Text.join_cons_cons]

theorem clean_of_mem_splitSteps {text step : Text} (member : step ∈ splitSteps text) :
    Text.trim step = step ∧ bar ∉ step := by
  refine ⟨?_, bar_not_mem_of_mem_splitSteps member⟩
  obtain ⟨segment, _, rfl⟩ := List.mem_map.mp member
  exact Text.trim_trim segment

theorem two_le_length_splitSteps {text : Text} (barred : bar ∈ text) : 2 ≤ (splitSteps text).length := by
  rw [splitSteps, List.length_map]
  exact Text.two_le_length_splitOn barred

end Chain

theorem expand_rewritten (settings : Settings) (catalog : Catalog) {text other : Text} (barred : Chain.bar ∈ text)
    (apart : ¬ [Chain.bar, Chain.bar] <:+: text) (otherBarred : Chain.bar ∈ other)
    (otherApart : ¬ [Chain.bar, Chain.bar] <:+: other) (same : Chain.splitSteps other = Chain.splitSteps text) :
    expand settings catalog other = (expand settings catalog text).rewritten other := by
  have reading := Chain.ofText?_rewritten barred apart otherBarred otherApart same settings.maxPipelineSteps
  cases read : Kind.ofText? settings.maxPipelineSteps text with
  | error issue =>
      rw [read] at reading
      have piped : other.contains Chain.bar = text.contains Chain.bar := by simp [barred, otherBarred]
      rw [expand_of_unread catalog reading, expand_of_unread catalog read, Expansion.unread, Expansion.unread, piped]
      rfl
  | ok kind =>
      obtain ⟨units, rfl, _⟩ := Chain.exists_reading_of_ofText? barred read
      rw [read] at reading
      rw [expand_of_read catalog reading, expand_of_read catalog read]
      exact Chain.expand_rewritten settings catalog text other units

/-- White space around bars does not matter. Two texts with bars, none of them adjacent, that have the same steps are
expanded alike over any catalog and under any settings: the expansions differ in the prompt and in the text that the
kind keeps, and in nothing else, whether the steps can be read or not. Every such text has the same steps as its steps
with one space on either side of each bar, and steps that are trimmed and have no bar, at least one of them, are found
again when they are written so. -/
theorem spacing_of_bars_ignored (settings : Settings) (catalog : Catalog) {text : Text} (barred : Chain.bar ∈ text)
    (apart : ¬ [Chain.bar, Chain.bar] <:+: text) :
    let whole := expand settings catalog text
    let steps := Chain.splitSteps text
    (∀ other, Chain.bar ∈ other → ¬ [Chain.bar, Chain.bar] <:+: other → Chain.splitSteps other = steps →
      expand settings catalog other = whole.rewritten other ∧
        (expand settings catalog other).executionPrompts = whole.executionPrompts) ∧
      (Chain.bar ∈ Chain.spaced steps ∧ ¬ [Chain.bar, Chain.bar] <:+: Chain.spaced steps ∧
        Chain.splitSteps (Chain.spaced steps) = steps ∧
        expand settings catalog (Chain.spaced steps) = whole.rewritten (Chain.spaced steps)) ∧
      ∀ parts : List Text, parts ≠ [] → (∀ part ∈ parts, Text.trim part = part ∧ Chain.bar ∉ part) →
        Chain.splitSteps (Chain.spaced parts) = parts := by
  intro whole steps
  have several := Chain.two_le_length_splitSteps barred
  have unbarred : ∀ step ∈ steps, Chain.bar ∉ step := fun step member => Chain.bar_not_mem_of_mem_splitSteps member
  have spacedBarred := Chain.bar_mem_spaced several
  have spacedApart := Chain.not_adjacent_spaced several unbarred
  have found : Chain.splitSteps (Chain.spaced steps) = steps :=
    Chain.splitSteps_spaced_of_trimmed (Chain.splitSteps_ne_nil text) fun _ member => Chain.clean_of_mem_splitSteps member
  refine ⟨fun other otherBarred otherApart same => ?_, ⟨spacedBarred, spacedApart, found, ?_⟩, ?_⟩
  · have alike := expand_rewritten settings catalog barred apart otherBarred otherApart same
    exact ⟨alike, by rw [alike]; rfl⟩
  · exact expand_rewritten settings catalog barred apart spacedBarred spacedApart found
  · exact fun parts present clean => Chain.splitSteps_spaced_of_trimmed present clean

/-- No steps at all are written like a single empty one. -/
example : Chain.splitSteps (Chain.spaced []) = [[]] := by decide

/-- No white space at all, and several kinds of it on both sides of each bar. -/
theorem spacing_of_two_bars_ignored :
    let catalog : Catalog := [⟨"hero".toList, ["Ann".toList, "Bo".toList]⟩]
    let text := "_hero_ waves|[red, blue] sky|end".toList
    let other := " _hero_ waves\t| [red, blue] sky |\u2003end\n".toList
    Chain.splitSteps other = Chain.splitSteps text ∧
      expand {} catalog other = (expand {} catalog text).rewritten other ∧
      (expand {} catalog other).executionPrompts =
        [some "Ann waves".toList, some "red sky".toList, some "end".toList] ∧
      Chain.splitSteps (Chain.spaced ["_a_".toList, [], "b c".toList]) = ["_a_".toList, [], "b c".toList] := by
  intro catalog text other
  have apart : ¬ [Chain.bar, Chain.bar] <:+: text := by
    rw [← Chain.hasDoubled_iff]
    decide
  have otherApart : ¬ [Chain.bar, Chain.bar] <:+: other := by
    rw [← Chain.hasDoubled_iff]
    decide
  have same : Chain.splitSteps other = Chain.splitSteps text := by decide
  obtain ⟨alike, _, written⟩ := spacing_of_bars_ignored {} catalog (by decide : Chain.bar ∈ text) apart
  obtain ⟨rewritten, run⟩ := alike other (by decide) otherApart same
  refine ⟨same, rewritten, ?_, written _ (by decide) (by decide)⟩
  rw [run]
  simp only [catalog, text]
  cbv

end PromptTemplate
