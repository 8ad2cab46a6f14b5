import PromptTemplate.Proofs.Cost.Refusal
import PromptTemplate.Proofs.Settings.Given
import PromptTemplate.Proofs.Value.Writing
import PromptTemplate.Settings.InPlace

set_option autoImplicit false

namespace PromptTemplate.Settings

variable {room : Nat} {formula : Formula.Evaluator}

/-- A key that can be written and names a field. -/
def Denotes (room : Nat) (key : Value) (field : Field) : Prop :=
  key.isWritable room = true ∧ Names key field

/-- Why a key denotes no field. -/
def keyFailure? (room : Nat) (key : Value) : Option (Failure Fault) :=
  if key.isWritable room then
    if (Field.ofKey? key.plain).isSome then none else some (.fault (.unknownKey key))
  else some (.unwritable key)

theorem keyFailure?_eq_none_iff {key : Value} : keyFailure? room key = none ↔ ∃ field, Denotes room key field := by
  simp only [keyFailure?, Denotes, Names, exists_and_left, ← Option.isSome_iff_exists]
  split_ifs with writable named <;> simp [*]

/-- Fields are read up to the first key that denotes none. -/
theorem readFields_eq (given : Assoc Field Value) (pairs : List (Value × Value)) :
    readFields room given pairs =
      match pairs.findSome? fun entry => keyFailure? room entry.1 with
      | some failure => .error failure
      | none => (fieldsOf? given pairs).mapError .fault := by
  induction pairs generalizing given with
  | nil => rfl
  | cons entry rest ih =>
      obtain ⟨key, value⟩ := entry
      rw [readFields, List.findSome?_cons, keyFailure?, written, fieldsOf?]
      by_cases writable : key.isWritable room = true
      · cases named : Field.ofKey? key.plain with
        | none => simp [writable, bind, Except.bind, throw, throwThe, MonadExceptOf.throw]
        | some field => simp [writable, bind, Except.bind, ih]
      · simp [writable, bind, Except.bind]

/-- All keys denote fields if and only if fields are read, and they are what the map gives. -/
theorem readFields_eq_ok_iff {before given : Assoc Field Value} {pairs : List (Value × Value)} :
    readFields room before pairs = .ok given ↔
      (∀ entry ∈ pairs, ∃ field, Denotes room entry.1 field) ∧ fieldsOf? before pairs = .ok given := by
  simp only [← keyFailure?_eq_none_iff]
  rw [readFields_eq]
  cases found : pairs.findSome? fun entry => keyFailure? room entry.1 with
  | some failure =>
      obtain ⟨entry, member, fails⟩ := List.exists_of_findSome?_eq_some found
      simp only [reduceCtorEq, false_iff, not_and]
      intro denotes
      rw [denotes entry member] at fails
      cases fails
  | none =>
      rw [List.findSome?_eq_none_iff] at found
      rw [and_iff_right found]
      exact mapError_eq_ok

theorem readPrice_eq_ok {given : Assoc Field Value} {price : Option Value}
    (read : readPrice room formula given = .ok price) :
    price = none ∨ ∃ amount : Float, price = some (.float amount) ∧ ¬ amount < 0.0 := by
  simp only [readPrice] at read
  split at read
  · cases read
    exact Or.inl rfl
  · cases read
    exact Or.inl rfl
  · split at read
    · next amount accepted =>
        cases read
        exact Or.inr ⟨amount, rfl, (Price.read_eq_ok_iff.mp accepted).2⟩
    · cases read
    · cases read

theorem readGiven_eq_ok_iff {given : Assoc Field Value} {settings : Settings} :
    readGiven room formula given = .ok settings ↔
      (∀ field ∈ Field.limits, checkLimit given field = .ok ()) ∧
      (∀ field ∈ Field.flags, checkFlag given field = .ok ()) ∧
      ∃ price, readPrice room formula given = .ok price ∧ checkThresholds (ofFields given price) = .ok settings := by
  simp only [readGiven, bind_eq_ok, forM_eq_ok, stated_eq_ok_iff]
  constructor
  · rintro ⟨_, limits, _, flags, price, priced, ordered⟩
    exact ⟨limits, flags, price, priced, ordered⟩
  · rintro ⟨limits, flags, price, priced, ordered⟩
    exact ⟨(), limits, (), flags, price, priced, ordered⟩

theorem isSound_of_read {value : Value} {settings : Settings} (accepted : read room formula value = .ok settings) :
    settings.IsSound := by
  cases value with
  | null =>
      cases accepted
      exact isSound_standard
  | map pairs =>
      obtain ⟨given, _, made⟩ := bind_eq_ok.mp accepted
      obtain ⟨limits, _, price, priced, ordered⟩ := readGiven_eq_ok_iff.mp made
      exact isSound_of_checked limits (readPrice_eq_ok priced) ordered
  | _ => cases accepted

theorem follows_readFields (before : Assoc Field Value) (pairs : List (Value × Value)) :
    Follows room (readFields room before pairs) (fieldsOf? before pairs) := by
  induction pairs generalizing before with
  | nil => exact Or.inl rfl
  | cons entry rest ih =>
      obtain ⟨key, value⟩ := entry
      rw [readFields, fieldsOf?]
      apply follows_after_written
      cases Field.ofKey? key.plain with
      | none => exact Or.inl rfl
      | some field => exact ih _

theorem follows_readPrice (given : Assoc Field Value) :
    Follows room (readPrice room formula given) (priceOf? given formula) := by
  cases found : given.get? .perUnitCost with
  | none =>
      simp only [readPrice, priceOf?, found]
      exact Or.inl rfl
  | some value =>
      cases value with
      | null =>
          simp only [readPrice, priceOf?, found]
          exact Or.inl rfl
      | _ =>
          simp only [readPrice, priceOf?, found]
          rcases Price.read_eq_mapError_or formula with same | ⟨unwritable, broken⟩
          · rw [same]
            cases Price.ofValue _ formula <;> exact Or.inl rfl
          · rw [broken]
            exact Or.inr ⟨_, unwritable, rfl⟩

/-- What the program reads are the settings that the value holds, unless a value cannot be written. -/
theorem follows_read (value : Value) : Follows room (read room formula value) (ofValue? value formula) := by
  cases value with
  | map pairs =>
      refine (follows_readFields [] pairs).bind fun given => ?_
      refine (follows_forM (fun field => follows_stated Fault.shown (checkLimit given field)) _).bind fun _ => ?_
      refine (follows_forM (fun field => follows_stated Fault.shown (checkFlag given field)) _).bind fun _ => ?_
      exact (follows_readPrice given).bind fun price => follows_stated Fault.shown _
  | _ => exact Or.inl rfl

end PromptTemplate.Settings
