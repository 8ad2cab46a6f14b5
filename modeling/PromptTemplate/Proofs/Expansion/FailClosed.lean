import Mathlib
import PromptTemplate.Proofs.Expansion.Consistency
import PromptTemplate.Proofs.Expansion.Numerals
import PromptTemplate.Proofs.Settings.InPlace

set_option autoImplicit false

namespace PromptTemplate

namespace Outcome

variable {κ μ : Type}

/-- A consistent outcome whose preview is the prefix that the limit on previews allows. -/
structure FailsClosed (maxPreview : Int) (outcome : Outcome κ) : Prop extends Consistent outcome where
  previewed : outcome.isValid = true →
    outcome.previewCount = min (outcome.totalCount : Int) maxPreview ∧
      outcome.preview = outcome.units.take outcome.previewCount.toNat

theorem firstUnits_of_nonneg {count : Int} (nonneg : 0 ≤ count) (units : List Text) :
    firstUnits count units = units.take count.toNat := by
  have same : count.natAbs = count.toNat := by omega
  rw [firstUnits, if_neg (by omega), same]

theorem Consistent.failsClosed {maxPreview : Int} {outcome : Outcome κ} (positive : 1 ≤ maxPreview)
    (consistent : outcome.Consistent) (shown : outcome.isValid = true →
      outcome.previewCount = min (outcome.totalCount : Int) maxPreview) :
    outcome.FailsClosed maxPreview where
  toConsistent := consistent
  previewed := by
    intro valid
    have nonneg : 0 ≤ outcome.previewCount := by
      rw [shown valid]
      omega
    exact ⟨shown valid, firstUnits_of_nonneg nonneg outcome.units⟩

theorem FailsClosed.withKind {maxPreview : Int} {outcome : Outcome κ}
    (closed : outcome.FailsClosed maxPreview) (kind : Option μ) :
    (outcome.withKind kind).FailsClosed maxPreview :=
  ⟨closed.toConsistent.withKind kind, closed.previewed⟩

end Outcome

section

variable {settings : Settings} (positive : 1 ≤ settings.maxPreview) (catalog : Catalog)

include positive

theorem Selection.combine_previewCount (text : Text) (entries : Text → List Text) :
    (combine settings text entries).isValid = true →
      (combine settings text entries).previewCount =
        min ((combine settings text entries).totalCount : Int) settings.maxPreview := by
  simp only [combine]
  split
  · intro _
    simp only [Outcome.accepted, List.length_singleton]
    omega
  · split
    · intro valid
      cases valid
    · intro _
      simp only [outcome, length_units]

theorem UnitKind.expand_failsClosed (kind : UnitKind) :
    (kind.expand settings catalog).FailsClosed settings.maxPreview := by
  apply (kind.expand_consistent settings catalog).failsClosed positive
  cases kind with
  | plain text =>
      intro _
      simp only [expand, Outcome.accepted, List.length_singleton]
      omega
  | bracketed text group =>
      simp only [expand]
      split
      · intro valid
        cases valid
      · intro _
        rfl
  | wildcarded text names =>
      simp only [expand]
      split
      · exact Selection.combine_previewCount positive text _
      · intro valid
        cases valid

theorem Chain.expand_failsClosed (text : Text) {kinds : List UnitKind} (nonempty : kinds ≠ []) :
    (expand settings catalog text kinds).FailsClosed settings.maxPreview := by
  apply (expand_consistent settings catalog text nonempty).failsClosed positive
  intro valid
  by_cases quiet : (expandSteps settings catalog 1 kinds).flatMap stepIssues = []
  · obtain ⟨_, _, counted, shown⟩ := expand_of_quiet settings catalog text kinds quiet
    rw [shown, counted]
  · have invalid := (expand_of_issues settings catalog text kinds quiet).1
    rw [invalid] at valid
    cases valid

theorem expand_failsClosed (prompt : Text) :
    (expand settings catalog prompt).FailsClosed settings.maxPreview := by
  rcases expand_cases settings catalog prompt with
    ⟨issue, unread⟩ | ⟨unit, unbarred, read, single⟩ | ⟨kinds, barred, read, chain⟩
  · rw [unread]
    apply (Outcome.refused_consistent prompt (List.cons_ne_nil issue []) none []).failsClosed positive
    intro valid
    cases valid
  · rw [single]
    exact (unit.expand_failsClosed positive catalog).withKind _
  · rw [chain]
    exact Chain.expand_failsClosed positive catalog prompt (Chain.kinds_ne_nil_of_read read)

end

/-- Over settings that were checked, a prompt is evaluated to its expansion, which fails closed, as does the outcome of
each of its steps. The one failure that is passed on instead is that a number is to be told and has no numeral. That
number is always how many units one part of the prompt stands for, unless the prompt is so long that its characters
cannot be counted either. -/
theorem evaluate_failsClosed_unless_outnumbered {room : Nat} {formula : Formula.Evaluator}
    {data : Value} {settings : Settings} (checked : Settings.read room formula data = .ok settings) (catalog : Catalog)
    (prompt : Text) :
    let expansion := expand settings catalog prompt
    (evaluate settings catalog prompt = .ok expansion ∨ evaluate settings catalog prompt = .error .unwritable) ∧
      (Text.hasNumeral (prompt.length + 1 : Nat) = true →
        (evaluate settings catalog prompt = .error .unwritable ↔ Outnumbers settings catalog prompt)) ∧
      expansion.prompt = prompt ∧ (expansion.isPipeline = true ↔ Chain.bar ∈ prompt) ∧
      expansion.FailsClosed settings.maxPreview ∧
      ∀ step ∈ expansion.steps, step.outcome.FailsClosed settings.maxPreview := by
  intro expansion
  have sound := Settings.isSound_of_read checked
  refine ⟨?_, ?_, prompt_expand settings catalog prompt, isPipeline_expand_iff settings catalog prompt,
    expand_failsClosed sound.maxPreview_pos catalog prompt, ?_⟩
  · rw [evaluate_eq, Expansion.stated]
    split
    · exact Or.inl rfl
    · exact Or.inr rfl
  · exact fun short => evaluate_eq_error_iff_outnumbers short sound
  · intro step member
    obtain ⟨kind, made⟩ := exists_kind_of_mem_steps settings catalog prompt member
    rw [made]
    exact kind.expand_failsClosed sound.maxPreview_pos catalog

/-- A chain that carries one unit of each of its steps, with settings read from a map. -/
theorem evaluate_failsClosed_of_two_previews :
    let data : Value := .map [(.text "max_preview".toList, .int 2)]
    let catalog : Catalog := [⟨"hero".toList, ["Ann".toList, "Bo".toList]⟩]
    let prompt := "_hero_ waves | [red, blue] sky | end".toList
    Settings.read 900 Formula.evaluate data = .ok { maxPreview := 2 } ∧
      ∃ expansion, evaluate { maxPreview := 2 } catalog prompt = .ok expansion ∧ expansion.FailsClosed 2 ∧
        (∀ step ∈ expansion.steps, step.outcome.FailsClosed 2) ∧
        expansion.units = ["Ann waves".toList, "red sky".toList, "end".toList] := by
  intro data catalog prompt
  have checked : Settings.read 900 Formula.evaluate data = .ok { maxPreview := 2 } := by
    simp only [data]
    cbv
  obtain ⟨total, _, _, _, closed, steps⟩ := evaluate_failsClosed_unless_outnumbered checked catalog prompt
  have issues : (expand { maxPreview := 2 } catalog prompt).issues = [] := by
    simp only [prompt, catalog]
    cbv
  have warnings : (expand { maxPreview := 2 } catalog prompt).warnings =
      [.unusedVariants 1 2, .unusedVariants 2 2] := by
    simp only [prompt, catalog]
    cbv
  have written : (expand { maxPreview := 2 } catalog prompt).isWritable = true := by
    rw [Outcome.isWritable, issues, warnings]
    simp [Warning.isWritable, Text.hasNumeral_of_le_ten]
  refine ⟨checked, _, total.resolve_right fun failed => ?_, closed, steps, ?_⟩
  · rw [evaluate_eq_error_iff, written] at failed
    cases failed
  · simp only [prompt, catalog]
    cbv

/-! ### More selections than a numeral counts -/

section

variable (count : Nat)

def numeralReferences : Text :=
  Text.join [' '] (((List.range count).map Text.ofNat).map Reference.token)

/-- Ten entries for each of the first numerals. -/
def numeralCatalog : Catalog :=
  (List.range count).map fun n => ⟨Text.ofNat n, List.replicate 10 ['x']⟩

theorem isName_numeral : ∀ name ∈ (List.range count).map Text.ofNat, Reference.IsName name := by
  rw [List.forall_mem_map]
  intro n _
  refine ⟨Nat.toDigits_ne_nil, fun c member => ?_⟩
  have digit := Nat.isDigit_of_mem_toDigits (by decide) (by decide) member
  simp [Text.isWordChar, Char.isAlphanum, digit]

theorem names_numeralReferences : Reference.names (numeralReferences count) = (List.range count).map Text.ofNat := by
  have distinct : Function.Injective Text.ofNat :=
    Function.LeftInverse.injective fun n => Nat.ofDigitChars_ten_toDigits
  exact Reference.names_join_token (isName_numeral count) (List.nodup_range.map distinct)

theorem entries_numeralCatalog :
    ∀ name ∈ (List.range count).map Text.ofNat, (numeralCatalog count).entries name = List.replicate 10 ['x'] := by
  rw [List.forall_mem_map]
  intro n member
  have listed : ⟨Text.ofNat n, List.replicate 10 ['x']⟩ ∈ numeralCatalog count := List.mem_map_of_mem member
  rw [Catalog.entries]
  split
  · next definition found =>
      obtain ⟨_, _, rfl⟩ := List.mem_map.mp (List.mem_of_find?_eq_some found)
      rfl
  · next absent => exact absurd BEq.rfl (List.find?_eq_none.mp absent _ listed)

theorem bar_not_mem_numeralReferences : Chain.bar ∉ numeralReferences count := by
  have other : ∀ c ∈ numeralReferences count, c ≠ Chain.bar := by
    refine Text.forall_mem_join (List.forall_mem_singleton.mpr (by decide)) (List.forall_mem_map.mpr ?_)
    intro name member c inside
    rintro rfl
    have word := (isName_numeral count name member).word_token _ inside
    cases word
  exact fun member => other _ member rfl

/-- The number of selections is a power of ten. -/
theorem prod_numeralReferences : ((Reference.names (numeralReferences count)).map fun name =>
    ((numeralCatalog count).entries name).length).prod = 10 ^ count := by
  have ten : ∀ name ∈ (List.range count).map Text.ofNat, ((numeralCatalog count).entries name).length = 10 := by
    intro name member
    rw [entries_numeralCatalog count name member, List.length_replicate]
  rw [names_numeralReferences, List.map_congr_left ten, List.map_const', List.length_map, List.length_range,
    List.prod_replicate]

theorem resolved_numeralReferences :
    ∀ name ∈ Reference.names (numeralReferences count), (numeralCatalog count).entries name ≠ [] := by
  rw [names_numeralReferences]
  intro name member
  rw [entries_numeralCatalog count name member]
  exact List.cons_ne_nil _ _

variable {count} (several : 2 < count)

include several

theorem names_numeralReferences_ne_nil : Reference.names (numeralReferences count) ≠ [] := by
  rw [names_numeralReferences, ne_eq, List.map_eq_nil_iff, List.range_eq_nil]
  omega

theorem read_numeralReferences : UnitKind.ofText? (numeralReferences count) =
    .ok (.wildcarded (numeralReferences count) (Reference.names (numeralReferences count))) :=
  UnitKind.ofText?_eq_wildcarded_iff.mpr ⟨names_numeralReferences_ne_nil several, rfl, rfl⟩

theorem hundred_lt_ten_pow : (100 : Int) < (10 ^ count : Nat) := by
  have more : 10 ^ 2 < 10 ^ count := Nat.pow_lt_pow_right (by decide) several
  exact Int.ofNat_lt.mpr more

theorem issues_numeralReferences :
    (expand { enforceThresholds := true } (numeralCatalog count) (numeralReferences count)).issues =
      [.tooManyCombinations (10 ^ count) 100] := by
  have resolved := Selection.unresolved_eq_nil.mpr (resolved_numeralReferences count)
  have total : Selection.count ((Reference.names (numeralReferences count)).map fun name =>
      ((numeralCatalog count).entries name).length) = 10 ^ count := prod_numeralReferences count
  rw [expand_of_unit _ _ (bar_not_mem_numeralReferences count) (read_numeralReferences several)]
  change (UnitKind.expand _ _ _).issues = _
  rw [UnitKind.expand_wildcarded _ _ (names_numeralReferences_ne_nil several),
    Selection.refusal?_of_resolved _ resolved, total, if_pos ⟨rfl, hundred_lt_ten_pow several⟩]
  rfl

omit several in
/-- Where the number of selections has more digits than a numeral may have, the refusal cannot be put into words. -/
theorem evaluate_numeralReferences (long : Text.maxDigits ≤ count) :
    evaluate { enforceThresholds := true } (numeralCatalog count) (numeralReferences count) = .error .unwritable := by
  have several : 2 < count := Nat.lt_of_lt_of_le (by decide) long
  have unwritten : Text.hasNumeral (10 ^ count) = false := by
    rw [Bool.eq_false_iff, ne_eq, Text.hasNumeral_ten_pow_iff, not_lt]
    exact long
  rw [evaluate_eq_error_iff, Outcome.isWritable, issues_numeralReferences several]
  simp [Issue.isWritable, unwritten]

end

/-- Under an enforced threshold 4301 references to names with ten entries each are not refused: there is no numeral for
the number of their selections, so that the words for the refusal cannot be written. -/
theorem evaluate_of_long_count :
    let data : Value := .map [(.text "enforce_thresholds".toList, .bool true)]
    Settings.read 900 Formula.evaluate data = .ok { enforceThresholds := true } ∧
      (expand { enforceThresholds := true } (numeralCatalog 4301) (numeralReferences 4301)).issues =
        [.tooManyCombinations (10 ^ 4301) 100] ∧
      evaluate { enforceThresholds := true } (numeralCatalog 4301) (numeralReferences 4301) = .error .unwritable := by
  intro data
  refine ⟨?_, issues_numeralReferences (by decide), evaluate_numeralReferences (by decide)⟩
  simp only [data]
  cbv

end PromptTemplate
