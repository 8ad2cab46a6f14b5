import PromptTemplate.Cost.InPlace
import PromptTemplate.Proofs.Decimal.Sign
import PromptTemplate.Proofs.Loading.Faults

set_option autoImplicit false

namespace PromptTemplate

/-- The values that are read as formulas: what is neither a number nor a truth value. -/
def Value.IsFormula : Value → Prop
  | .bool _ | .int _ | .float _ => False
  | _ => True

theorem Value.cases_isFormula (value : Value) :
    value.IsFormula ∨ (∃ b, value = .bool b) ∨ (∃ n, value = .int n) ∨ ∃ x, value = .float x := by
  cases value <;> simp [IsFormula]

namespace Price

theorem Failure.message?_eq_none_iff (failure : Failure) :
    failure.message? = none ↔ failure = .fault .beyondFloat ∨ failure = .unwritable := by
  cases failure with
  | fault cause => simp [message?, Fault.message?_eq_none_iff]
  | unwritable => simp [message?]

section

variable {α : Type} (room : Nat) (evaluate : Text → Except Formula.Fault α)
  (toFloat : α → Except Formula.Fault Float)

/-- How a value comes to its number, or fails to. -/
inductive Yields : Value → Except Failure Float → Prop
  | truthValue (b : Bool) : Yields (.bool b) (.error (.fault (.truthValue b)))
  | int {n : Int} {x : Float} (nearest : Decimal.floatOfInt? n = some x) : Yields (.int n) (.ok x)
  | beyondFloat {n : Int} (beyond : Decimal.leastBeyondFloat ≤ n.natAbs) :
      Yields (.int n) (.error (.fault .beyondFloat))
  | float (x : Float) : Yields (.float x) (.ok x)
  | unwritable {value : Value} (formula : value.IsFormula) (unwritable : value.isWritable room = false) :
      Yields value (.error .unwritable)
  | emptyFormula {value : Value} (formula : value.IsFormula) (writable : value.isWritable room = true)
      (empty : Text.trim value.plain = []) : Yields value (.error (.fault .emptyFormula))
  | formula {value : Value} {x : Float} (formula : value.IsFormula) (writable : value.isWritable room = true)
      (nonempty : Text.trim value.plain ≠ []) (evaluated : evaluate (Text.trim value.plain) >>= toFloat = .ok x) :
      Yields value (.ok x)
  | formulaFault {value : Value} {cause : Formula.Fault} (formula : value.IsFormula)
      (writable : value.isWritable room = true) (nonempty : Text.trim value.plain ≠ [])
      (evaluated : evaluate (Text.trim value.plain) >>= toFloat = .error cause) :
      Yields value (.error (.fault (.formula (Text.trim value.plain) cause)))

/-- What gives a float that is no number: such a float itself, and a formula that comes to one. -/
inductive GivesNaN : Value → Prop
  | float {x : Float} (nan : x.isNaN = true) : GivesNaN (.float x)
  | formula {value : Value} {x : Float} (formula : value.IsFormula) (writable : value.isWritable room = true)
      (nonempty : Text.trim value.plain ≠ []) (evaluated : evaluate (Text.trim value.plain) >>= toFloat = .ok x)
      (nan : x.isNaN = true) : GivesNaN value

end

/-- An integer beyond the largest float. -/
inductive IsBeyondFloat : Value → Prop
  | int {n : Int} (beyond : Decimal.leastBeyondFloat ≤ n.natAbs) : IsBeyondFloat (.int n)

/-- A formula that cannot be written. -/
structure IsUnwritable (room : Nat) (value : Value) : Prop where
  formula : value.IsFormula
  unwritable : value.isWritable room = false

section

variable {α : Type} {room : Nat} {evaluate : Text → Except Formula.Fault α}
  {toFloat : α → Except Formula.Fault Float} {value : Value}

/-! ### The number -/

theorem formulaNumber_eq (text : Text) :
    formulaNumber evaluate toFloat text =
      if text = [] then .error (.fault .emptyFormula)
      else (evaluate text >>= toFloat).mapError fun cause => .fault (.formula text cause) := by
  cases text with
  | nil => rfl
  | cons head rest =>
      simp only [formulaNumber, List.isEmpty_cons, Bool.false_eq_true, reduceCtorEq, ↓reduceIte]
      cases evaluate (head :: rest) >>= toFloat <;> rfl

theorem number_of_isFormula (formula : value.IsFormula) :
    number room evaluate toFloat value =
      if value.isWritable room then formulaNumber evaluate toFloat (Text.trim value.plain)
      else .error .unwritable := by
  have whole : number room evaluate toFloat value = written room value >>= formulaNumber evaluate toFloat := by
    cases value with
    | bool | int | float => exact formula.elim
    | _ => rfl
  rw [whole, written]
  split_ifs <;> rfl

theorem number_int (n : Int) :
    number room evaluate toFloat (.int n) = (Decimal.floatOfInt? n).elim (.error (.fault .beyondFloat)) .ok := by
  rw [number]
  cases Decimal.floatOfInt? n <;> rfl

/-- Reading comes to its number in the one way there is. -/
theorem yields_iff {outcome : Except Failure Float} :
    Yields room evaluate toFloat value outcome ↔ number room evaluate toFloat value = outcome := by
  constructor
  · intro yields
    cases yields with
    | truthValue => rfl
    | int nearest => rw [number_int, nearest, Option.elim_some]
    | beyondFloat beyond =>
        rw [number_int, (Decimal.floatOfInt?_eq_none_iff_natAbs _).mpr beyond, Option.elim_none]
    | float => rfl
    | unwritable formula unwritable => simp [number_of_isFormula formula, unwritable]
    | emptyFormula formula writable empty =>
        rw [number_of_isFormula formula, if_pos writable, formulaNumber_eq, if_pos empty]
    | formula formula writable nonempty evaluated =>
        rw [number_of_isFormula formula, if_pos writable, formulaNumber_eq, if_neg nonempty, evaluated]
        rfl
    | formulaFault formula writable nonempty evaluated =>
        rw [number_of_isFormula formula, if_pos writable, formulaNumber_eq, if_neg nonempty, evaluated]
        rfl
  · rintro rfl
    rcases value.cases_isFormula with formula | ⟨b, rfl⟩ | ⟨n, rfl⟩ | ⟨x, rfl⟩
    · rw [number_of_isFormula formula, formulaNumber_eq]
      split_ifs with writable empty
      · exact .emptyFormula formula writable empty
      · cases evaluated : evaluate (Text.trim value.plain) >>= toFloat with
        | ok x => exact .formula formula writable empty evaluated
        | error cause => exact .formulaFault formula writable empty evaluated
      · exact .unwritable formula (Bool.eq_false_of_not_eq_true writable)
    · exact .truthValue b
    · rw [number_int]
      cases nearest : Decimal.floatOfInt? n with
      | none => exact .beyondFloat ((Decimal.floatOfInt?_eq_none_iff_natAbs n).mp nearest)
      | some x => exact .int nearest
    · exact .float x

theorem number_eq_beyondFloat_iff :
    number room evaluate toFloat value = .error (.fault .beyondFloat) ↔ IsBeyondFloat value := by
  rw [← yields_iff]
  constructor
  · intro yields
    cases yields with
    | beyondFloat beyond => exact .int beyond
  · rintro ⟨beyond⟩
    exact .beyondFloat beyond

theorem number_eq_unwritable_iff :
    number room evaluate toFloat value = .error .unwritable ↔ IsUnwritable room value := by
  rw [← yields_iff]
  constructor
  · intro yields
    cases yields with
    | unwritable formula unwritable => exact ⟨formula, unwritable⟩
  · rintro ⟨formula, unwritable⟩
    exact .unwritable formula unwritable

/-- The float nearest to an integer is a number, so that only floats and formulas give none. -/
theorem number_eq_nan_iff :
    (∃ price, number room evaluate toFloat value = .ok price ∧ price.isNaN = true) ↔
      GivesNaN room evaluate toFloat value := by
  simp only [← yields_iff]
  constructor
  · rintro ⟨price, yields, nan⟩
    cases yields with
    | int nearest =>
        rw [Decimal.isNaN_of_floatOfInt? nearest] at nan
        cases nan
    | float => exact .float nan
    | formula formula writable nonempty evaluated => exact .formula formula writable nonempty evaluated nan
  · rintro (nan | ⟨formula, writable, nonempty, evaluated, nan⟩)
    · exact ⟨_, .float _, nan⟩
    · exact ⟨_, .formula formula writable nonempty evaluated, nan⟩

/-! ### The sign test -/

theorem read_eq :
    read room evaluate toFloat value =
      number room evaluate toFloat value >>= fun price => (nonNegative price).mapError .fault := by
  rw [read]
  refine bind_congr fun price => ?_
  rw [nonNegative]
  split_ifs <;> rfl

theorem read_eq_ok_iff {price : Float} :
    read room evaluate toFloat value = .ok price ↔
      number room evaluate toFloat value = .ok price ∧ ¬ price < 0.0 := by
  rw [read_eq]
  cases number room evaluate toFloat value with
  | error failure => simp [bind, Except.bind]
  | ok given =>
      simp only [bind, Except.bind, nonNegative, Except.ok.injEq]
      split_ifs with below
      · constructor
        · rintro ⟨⟩
        · rintro ⟨rfl, allowed⟩
          exact absurd below allowed
      · constructor
        · rintro ⟨⟩
          exact ⟨rfl, below⟩
        · rintro ⟨rfl, _⟩
          rfl

/-- The sign test adds no failure without words. -/
theorem read_eq_error_iff {failure : Failure} (wordless : failure.message? = none) :
    read room evaluate toFloat value = .error failure ↔ number room evaluate toFloat value = .error failure := by
  rw [read_eq]
  cases number room evaluate toFloat value with
  | error failure => rfl
  | ok given =>
      simp only [bind, Except.bind, nonNegative, reduceCtorEq, iff_false]
      split_ifs
      · rintro ⟨⟩
        cases wordless
      · rintro ⟨⟩

/-! ### What is settled -/

/-- A price is settled with zero or more, or with words. -/
def IsSettled : Except Failure Float → Prop
  | .ok price => 0.0 ≤ price
  | .error failure => failure.message?.isSome = true

instance (outcome : Except Failure Float) : Decidable (IsSettled outcome) :=
  match outcome with
  | .ok price => inferInstanceAs (Decidable (0.0 ≤ price))
  | .error failure => inferInstanceAs (Decidable (failure.message?.isSome = true))

theorem read_eq_beyondFloat_iff :
    read room evaluate toFloat value = .error (.fault .beyondFloat) ↔ IsBeyondFloat value :=
  (read_eq_error_iff rfl).trans number_eq_beyondFloat_iff

theorem read_eq_unwritable_iff :
    read room evaluate toFloat value = .error .unwritable ↔ IsUnwritable room value :=
  (read_eq_error_iff rfl).trans number_eq_unwritable_iff

theorem read_eq_nan_iff :
    (∃ price, read room evaluate toFloat value = .ok price ∧ price.isNaN = true) ↔
      GivesNaN room evaluate toFloat value := by
  rw [← number_eq_nan_iff]
  refine exists_congr fun price => and_congr_left fun nan => ?_
  rw [read_eq_ok_iff, and_iff_left ((Decimal.not_lt_zero_iff price).mpr (.inl nan))]

/-- What is left is a price that is not below zero, or a fault in words. -/
theorem not_isSettled_read_iff :
    ¬ IsSettled (read room evaluate toFloat value) ↔
      IsBeyondFloat value ∨ IsUnwritable room value ∨ GivesNaN room evaluate toFloat value := by
  rw [← read_eq_beyondFloat_iff, ← read_eq_unwritable_iff, ← read_eq_nan_iff]
  cases outcome : read room evaluate toFloat value with
  | error failure => simp [IsSettled, Failure.message?_eq_none_iff]
  | ok price =>
      -- The sign test refuses what is below zero, which is not the same as taking what is zero or more.
      have signed := (Decimal.not_lt_zero_iff price).mp (read_eq_ok_iff.mp outcome).2
      simp only [IsSettled, reduceCtorEq, false_or, Except.ok.injEq, exists_eq_left']
      exact ⟨signed.resolve_right, Decimal.not_zero_le_of_isNaN⟩

/-! ### The price as a whole -/

theorem evaluate_eq (text : Text) :
    Formula.evaluate text = Formula.operandOf text >>= Formula.Operand.toFloat := by
  rw [Formula.operandOf, bind_assoc]
  rfl

theorem ofFormula_eq (text : Text) :
    (ofFormula text fun text => evaluate text >>= toFloat).mapError .fault =
      formulaNumber evaluate toFloat text >>= fun price => (nonNegative price).mapError .fault := by
  rw [formulaNumber_eq, ofFormula]
  split_ifs with empty none none
  · rfl
  · exact absurd (List.isEmpty_iff.mp empty) none
  · exact absurd (List.isEmpty_iff.mpr none) empty
  · cases evaluate text >>= toFloat <;> rfl

/-- Step by step, a value that can be written comes to the price that it stands for. -/
theorem read_eq_ofValue_bind (writable : ¬ IsUnwritable room value) :
    read room evaluate toFloat value = (ofValue value fun text => evaluate text >>= toFloat).mapError .fault := by
  rw [read_eq]
  rcases value.cases_isFormula with formula | ⟨b, rfl⟩ | ⟨n, rfl⟩ | ⟨x, rfl⟩
  · have whole : (ofValue value fun text => evaluate text >>= toFloat) =
        ofFormula (Text.trim value.plain) fun text => evaluate text >>= toFloat := by
      cases value with
      | bool | int | float => exact formula.elim
      | _ => rfl
    have written : value.isWritable room = true := by
      simpa using fun unwritable => writable ⟨formula, unwritable⟩
    rw [number_of_isFormula formula, if_pos written, whole, ofFormula_eq]
  · rfl
  · rw [number_int, ofValue]
    cases Decimal.floatOfInt? n <;> rfl
  · rfl

theorem read_eq_ofValue (writable : ¬ IsUnwritable room value) :
    read room Formula.operandOf Formula.Operand.toFloat value = (ofValue value).mapError .fault := by
  have evaluated : (fun text => Formula.operandOf text >>= Formula.Operand.toFloat) = Formula.evaluate :=
    funext fun text => (evaluate_eq text).symm
  rw [read_eq_ofValue_bind writable, evaluated]

/-- A reading by any evaluator comes to what the value stands for, unless the value cannot be written. -/
theorem read_eq_mapError_or (formula : Formula.Evaluator) :
    read room formula .ok value = (ofValue value formula).mapError .fault ∨
      value.isWritable room = false ∧ read room formula .ok value = .error .unwritable := by
  by_cases unwritable : IsUnwritable room value
  · exact Or.inr ⟨unwritable.unwritable, read_eq_unwritable_iff.mpr unwritable⟩
  · have whole : (fun text => formula text >>= .ok) = formula := funext fun text => bind_pure (formula text)
    rw [read_eq_ofValue_bind unwritable, whole]
    exact Or.inl rfl

end

/-- A value is a price of zero or more or is refused in words, whatever evaluates the formulas and however deep values
are written, but for three kinds of values. An integer beyond the largest float is refused without words, as is a value
that cannot be written. A float that is no number, given or from a formula, is taken for a price. -/
theorem price_settled_but_for_three_kinds {α : Type} (room : Nat) (evaluate : Text → Except Formula.Fault α)
    (toFloat : α → Except Formula.Fault Float) (value : Value) :
    (IsSettled (read room evaluate toFloat value) ↔
      ¬ (IsBeyondFloat value ∨ IsUnwritable room value ∨ GivesNaN room evaluate toFloat value)) ∧
    (read room evaluate toFloat value = .error (.fault .beyondFloat) ↔ IsBeyondFloat value) ∧
    (read room evaluate toFloat value = .error .unwritable ↔ IsUnwritable room value) ∧
    ((∃ price, read room evaluate toFloat value = .ok price ∧ price.isNaN = true) ↔
      GivesNaN room evaluate toFloat value) ∧
    (¬ IsUnwritable room value →
      read room Formula.operandOf Formula.Operand.toFloat value = (ofValue value).mapError .fault) :=
  ⟨not_iff_comm.mp not_isSettled_read_iff |>.symm, read_eq_beyondFloat_iff, read_eq_unwritable_iff, read_eq_nan_iff,
    read_eq_ofValue⟩

/-- One value of each kind: the float that is no number, a formula that comes to it, an integer beyond the largest
float, and a list with an integer of 4301 digits. -/
theorem prices_not_settled :
    ¬ IsSettled ((ofValue (.float Decimal.notANumber)).mapError .fault) ∧
    ¬ IsSettled ((ofValue (.text "1e999*0".toList)).mapError .fault) ∧
    ¬ IsSettled ((ofValue (.int (10 ^ 400))).mapError .fault) ∧
    ¬ IsSettled (read 1 Formula.operandOf Formula.Operand.toFloat (.list [.int (10 ^ 4300)])) := by
  decide +kernel

end Price

end PromptTemplate
