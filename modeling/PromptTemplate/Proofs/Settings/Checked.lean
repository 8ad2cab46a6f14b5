import PromptTemplate.Settings.Reading

set_option autoImplicit false

namespace PromptTemplate.Settings

theorem bind_eq_ok {ε α β : Type} {first : Except ε α} {next : α → Except ε β} {result : β} :
    (first >>= next) = .ok result ↔ ∃ value, first = .ok value ∧ next value = .ok result := by
  cases first <;> simp [bind, Except.bind]

theorem mapError_eq_ok {ε φ α : Type} {made : Except ε α} {wrap : ε → φ} {result : α} :
    made.mapError wrap = .ok result ↔ made = .ok result := by
  cases made with
  | error cause =>
      constructor
      · intro same
        cases same
      · rintro ⟨⟩
  | ok given =>
      constructor
      · intro same
        exact congrArg Except.ok (Except.ok.inj same)
      · rintro ⟨⟩
        rfl

theorem forM_eq_ok {ε α : Type} {items : List α} {check : α → Except ε Unit} {done : Unit} :
    items.forM check = .ok done ↔ ∀ item ∈ items, check item = .ok () := by
  induction items with
  | nil => simp [List.forM, pure, Except.pure]
  | cons item items ih =>
      change (check item >>= fun _ => items.forM check) = _ ↔ _
      rw [bind_eq_ok, List.forall_mem_cons]
      constructor
      · rintro ⟨_, passed, others⟩
        exact ⟨passed, ih.mp others⟩
      · rintro ⟨passed, others⟩
        exact ⟨(), passed, ih.mpr others⟩

variable {formula : Formula.Evaluator}

theorem ofPairs?_eq_ok {pairs : List (Value × Value)} {settings : Settings}
    (accepted : ofPairs? pairs formula = .ok settings) :
    ∃ given price, fieldsOf? [] pairs = .ok given ∧
      (∀ field ∈ Field.limits, checkLimit given field = .ok ()) ∧
      (∀ field ∈ Field.flags, checkFlag given field = .ok ()) ∧
      priceOf? given formula = .ok price ∧ checkThresholds (ofFields given price) = .ok settings := by
  simp only [ofPairs?, bind_eq_ok, forM_eq_ok] at accepted
  obtain ⟨given, named, _, limits, _, flags, price, priced, ordered⟩ := accepted
  exact ⟨given, price, named, limits, flags, priced, ordered⟩

theorem limitOr_pos {given : Assoc Field Value} {field : Field} {standard : Int}
    (checked : checkLimit given field = .ok ()) (usual : 1 ≤ standard) :
    1 ≤ limitOr given field standard := by
  simp only [limitOr]
  split
  · rename_i n found
    simp only [checkLimit, found] at checked
    split at checked
    · cases checked
    · omega
  · exact usual

theorem checkThresholds_eq_ok {settings accepted : Settings}
    (checked : checkThresholds settings = .ok accepted) :
    accepted = settings ∧ settings.warnThreshold ≤ settings.dangerThreshold := by
  simp only [checkThresholds] at checked
  split at checked
  · cases checked
  · cases checked
    exact ⟨rfl, by omega⟩

theorem priceOf?_eq_ok {given : Assoc Field Value} {price : Option Value}
    (priced : priceOf? given formula = .ok price) :
    price = none ∨ ∃ amount : Float, price = some (.float amount) ∧ ¬ amount < 0.0 := by
  simp only [priceOf?] at priced
  split at priced
  · cases priced
    exact Or.inl rfl
  · cases priced
    exact Or.inl rfl
  · split at priced
    · cases priced
    · rename_i amount read
      cases priced
      exact Or.inr ⟨amount, rfl, Price.ofValue_eq_ok read⟩

theorem isSound_standard : IsSound {} where
  maxBracketOptions_pos := by decide
  maxPreview_pos := by decide
  warnThreshold_pos := by decide
  dangerThreshold_pos := by decide
  maxPipelineSteps_pos := by decide
  thresholds_ordered := by decide
  cost_sound := Or.inl rfl

theorem isSound_of_checked {given : Assoc Field Value} {price : Option Value} {settings : Settings}
    (limits : ∀ field ∈ Field.limits, checkLimit given field = .ok ())
    (priced : price = none ∨ ∃ amount : Float, price = some (.float amount) ∧ ¬ amount < 0.0)
    (ordered : checkThresholds (ofFields given price) = .ok settings) : settings.IsSound := by
  obtain ⟨rfl, thresholds⟩ := checkThresholds_eq_ok ordered
  have positive : ∀ field ∈ Field.limits, ∀ standard : Int, 1 ≤ standard →
      1 ≤ limitOr given field standard := by
    intro field member standard usual
    exact limitOr_pos (limits field member) usual
  refine ⟨?_, ?_, ?_, ?_, ?_, thresholds, ?_⟩
  · exact positive .maxBracketOptions (by decide) _ (by decide)
  · exact positive .maxPreview (by decide) _ (by decide)
  · exact positive .warnThreshold (by decide) _ (by decide)
  · exact positive .dangerThreshold (by decide) _ (by decide)
  · exact positive .maxPipelineSteps (by decide) _ (by decide)
  · rcases priced with absent | ⟨amount, present, allowed⟩
    · exact Or.inl absent
    · exact Or.inr ⟨amount, present, by simpa using allowed⟩

theorem isSound_of_ofValue? {value : Value} {settings : Settings}
    (accepted : ofValue? value formula = .ok settings) : settings.IsSound := by
  match value, accepted with
  | .null, rfl => exact isSound_standard
  | .map pairs, accepted =>
      obtain ⟨given, price, _, limits, _, priced, ordered⟩ := ofPairs?_eq_ok accepted
      exact isSound_of_checked limits (priceOf?_eq_ok priced) ordered

end PromptTemplate.Settings
