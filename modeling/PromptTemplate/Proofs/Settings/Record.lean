import PromptTemplate.Proofs.Settings.Given

set_option autoImplicit false

namespace PromptTemplate.Settings

/-- What a field holds when a value is taken for it: the value itself, or the number that it comes to as a price. -/
inductive Takes (formula : Formula.Evaluator) : Field → Value → Value → Prop
  | noPrice : Takes formula .perUnitCost .null .null
  | price {value : Value} {price : Float} (given : value ≠ .null) (read : Price.ofValue value formula = .ok price) :
      Takes formula .perUnitCost value (.float price)
  | other {field : Field} (other : field ≠ .perUnitCost) (value : Value) : Takes formula field value value

variable {formula : Formula.Evaluator}

theorem limitOr_eq {given : Assoc Field Value} {field : Field} (checked : checkLimit given field = .ok ())
    (standard : Int) : .int (limitOr given field standard) = (given.get? field).getD (.int standard) := by
  cases found : given.get? field with
  | none => simp [limitOr, found]
  | some value =>
      obtain ⟨n, rfl, _⟩ := checkLimit_eq_ok_iff.mp checked value found
      simp [limitOr, found]

theorem flagOr_eq {given : Assoc Field Value} {field : Field} (checked : checkFlag given field = .ok ())
    (standard : Bool) : .bool (flagOr given field standard) = (given.get? field).getD (.bool standard) := by
  cases found : given.get? field with
  | none => simp [flagOr, found]
  | some value =>
      obtain ⟨b, rfl⟩ := checkFlag_eq_ok_iff.mp checked value found
      simp [flagOr, found]

namespace Record

/-- The price is read alike on its own and among the other values. -/
theorem readPrice?_eq (given : Assoc Field Value) :
    readPrice? given formula = (priceOf? given formula).map (·.elim given (given.insert .perUnitCost)) := by
  rw [readPrice?, priceOf?]
  cases given.get? .perUnitCost with
  | none => rfl
  | some value =>
      cases value with
      | null => rfl
      | _ =>
          dsimp only
          cases Price.ofValue _ formula <;> rfl

/-- Reading the price replaces what is given for it, and leaves the other fields alone. -/
theorem rel_of_readPrice? {given settled : Assoc Field Value} (read : readPrice? given formula = .ok settled)
    (field : Field) : Option.Rel (Takes formula field) (given.get? field) (settled.get? field) := by
  have kept : ∀ found, field ≠ .perUnitCost → Option.Rel (Takes formula field) found found := by
    rintro (_ | value) other
    · exact .none
    · exact .some (.other other value)
  rw [readPrice?] at read
  split at read
  · next absent =>
      cases read
      by_cases price : field = .perUnitCost
      · rw [price, absent]
        exact .none
      · exact kept _ price
  · next nothing =>
      cases read
      by_cases price : field = .perUnitCost
      · rw [price, nothing]
        exact .some .noPrice
      · exact kept _ price
  · next value proper found =>
      split at read
      · cases read
      · next price accepted =>
          cases read
          rw [Assoc.get?_insert]
          by_cases same : field = .perUnitCost
          · subst same
            simp only [found, beq_self_eq_true, if_true]
            exact .some (.price proper accepted)
          · rw [if_neg (by simpa using Ne.symm same)]
            exact kept _ same

/-- A record of values that pass the checks holds what the settings hold. -/
theorem ofFields_eq_value {given : Assoc Field Value} {price : Option Value}
    (limits : ∀ field ∈ Field.limits, checkLimit given field = .ok ())
    (flags : ∀ field ∈ Field.flags, checkFlag given field = .ok ()) (priced : priceOf? given formula = .ok price) :
    ofFields (price.elim given (given.insert .perUnitCost)) = (Settings.ofFields given price).value := by
  have others : ∀ field ≠ Field.perUnitCost,
      (Option.elim price given (given.insert .perUnitCost)).get? field = given.get? field := by
    intro field other
    cases price with
    | none => rfl
    | some value =>
        rw [Option.elim_some, Assoc.get?_insert, if_neg (by simpa using Ne.symm other)]
  have limit : ∀ field ∈ Field.limits, field ≠ .perUnitCost →
      ∀ standard : Int, Settings.value {} field = .int standard →
      ofFields (price.elim given (given.insert .perUnitCost)) field = .int (limitOr given field standard) := by
    intro field member other standard usual
    rw [ofFields, others field other, limitOr_eq (limits field member), usual]
  have flag : ∀ field ∈ Field.flags, field ≠ .perUnitCost →
      ∀ standard : Bool, Settings.value {} field = .bool standard →
      ofFields (price.elim given (given.insert .perUnitCost)) field = .bool (flagOr given field standard) := by
    intro field member other standard usual
    rw [ofFields, others field other, flagOr_eq (flags field member), usual]
  funext field
  cases field with
  | maxBracketOptions => exact limit _ (by decide) (by decide) _ rfl
  | maxPreview => exact limit _ (by decide) (by decide) _ rfl
  | warnThreshold => exact limit _ (by decide) (by decide) _ rfl
  | dangerThreshold => exact limit _ (by decide) (by decide) _ rfl
  | maxPipelineSteps => exact limit _ (by decide) (by decide) _ rfl
  | trimWhitespace => exact flag _ (by decide) (by decide) _ rfl
  | enforceThresholds => exact flag _ (by decide) (by decide) _ rfl
  | perUnitCost =>
      rw [priceOf?] at priced
      split at priced
      · next absent =>
          cases priced
          simp [ofFields, absent, Settings.ofFields, value]
      · next nothing =>
          cases priced
          simp [ofFields, nothing, Settings.ofFields, value]
      · next proper found =>
          split at priced
          · cases priced
          · cases priced
            simp [ofFields, Assoc.get?_insert, Settings.ofFields, value]

theorem checkThresholds_value (settings : Settings) :
    checkThresholds settings.value = (Settings.checkThresholds settings).map Settings.value := by
  simp only [checkThresholds, value, Settings.checkThresholds]
  split <;> rfl

theorem ofPairs?_eq (pairs : List (Value × Value)) :
    ofPairs? pairs formula = (Settings.ofPairs? pairs formula).map Settings.value := by
  rw [ofPairs?, Settings.ofPairs?]
  cases fieldsOf? [] pairs with
  | error fault => rfl
  | ok given =>
      cases limits : Field.limits.forM (checkLimit given) with
      | error fault => simp [bind, Except.bind, limits, Except.map]
      | ok _ =>
          cases flags : Field.flags.forM (checkFlag given) with
          | error fault => simp [bind, Except.bind, limits, flags, Except.map]
          | ok _ =>
              cases priced : priceOf? given formula with
              | error fault => simp [bind, Except.bind, limits, flags, readPrice?_eq, priced, Except.map]
              | ok price =>
                  have held := ofFields_eq_value (forM_eq_ok.mp limits) (forM_eq_ok.mp flags) priced
                  simp only [bind, Except.bind, limits, flags, readPrice?_eq, priced, Except.map]
                  rw [held, checkThresholds_value]
                  rfl

theorem ofValue?_eq (value : Value) :
    ofValue? value formula = (Settings.ofValue? value formula).map Settings.value := by
  cases value with
  | map pairs => exact ofPairs?_eq pairs
  | _ => rfl

theorem toPairs_value (settings : Settings) : toPairs settings.value = settings.toPairs := rfl

theorem replace?_value (formula : Formula.Evaluator) (settings : Settings) (changes : List (Text × Value)) :
    replace? settings.value changes formula = (settings.replace? changes formula).map Settings.value := by
  rw [replace?, ofPairs?_eq, toPairs_value]
  rfl

end Record

end PromptTemplate.Settings
