import Mathlib.Data.List.Basic
import PromptTemplate.Proofs.Settings.Checked
import PromptTemplate.Settings.Record

set_option autoImplicit false

namespace PromptTemplate.Settings

def Names (key : Value) (field : Field) : Prop :=
  Field.ofKey? key.plain = some field

/-- What the last entry for a field gives. -/
def lastGiven? (pairs : List (Value × Value)) (field : Field) : Option Value :=
  (pairs.reverse.find? fun entry => Field.ofKey? entry.1.plain == some field).map (·.2)

theorem Field.mem_all (field : Field) : field ∈ Field.all := by
  cases field <;> decide

@[simp] theorem Field.ofKey?_name (field : Field) : Field.ofKey? field.name.toList = some field := by
  cases field <;> decide

theorem Field.name_injective {first second : Field} (same : first.name.toList = second.name.toList) :
    first = second := by
  have found := Field.ofKey?_name first
  rw [same, Field.ofKey?_name] at found
  exact (Option.some.inj found).symm

theorem Names.unique {key : Value} {first second : Field} (named : Names key first) (also : Names key second) :
    first = second :=
  Option.some.inj (named.symm.trans also)

theorem Names.apart {key other : Value} {first second : Field} (named : Names key first) (also : Names other second)
    (differ : first ≠ second) (field : Field) (here : Names key field) : ¬ Names other field :=
  fun there => differ ((named.unique here).trans (there.unique also))

theorem lastGiven?_append (front back : List (Value × Value)) (field : Field) :
    lastGiven? (front ++ back) field = (lastGiven? back field).or (lastGiven? front field) := by
  rw [lastGiven?, List.reverse_append, List.find?_append, Option.map_or]
  rfl

theorem lastGiven?_cons (entry : Value × Value) (rest : List (Value × Value)) (field : Field) :
    lastGiven? (entry :: rest) field =
      (lastGiven? rest field).or (if Field.ofKey? entry.1.plain = some field then some entry.2 else none) := by
  rw [← List.singleton_append, lastGiven?_append]
  by_cases named : Field.ofKey? entry.1.plain = some field <;> simp [lastGiven?, named]

theorem lastGiven?_eq_none_iff {pairs : List (Value × Value)} {field : Field} :
    lastGiven? pairs field = none ↔ ∀ entry ∈ pairs, ¬ Names entry.1 field := by
  simp [lastGiven?, Names]

theorem mem_of_lastGiven? {pairs : List (Value × Value)} {field : Field} {value : Value}
    (given : lastGiven? pairs field = some value) : ∃ key, (key, value) ∈ pairs ∧ Names key field := by
  obtain ⟨⟨key, _⟩, found, rfl⟩ := Option.map_eq_some_iff.mp given
  exact ⟨key, List.mem_reverse.mp (List.mem_of_find?_eq_some found), by simpa [Names] using List.find?_some found⟩

theorem lastGiven?_map_name (fields : List Field) (value : Field → Value) (field : Field) :
    lastGiven? (fields.map fun field => (.text field.name.toList, value field)) field =
      if field ∈ fields then some (value field) else none := by
  induction fields with
  | nil => rfl
  | cons first rest ih =>
      rw [List.map_cons, lastGiven?_cons, ih, Value.plain, Field.ofKey?_name]
      by_cases same : first = field
      · subst same
        by_cases again : first ∈ rest <;> simp [again]
      · simp [same, Ne.symm same]

/-- The fields that are read off a map hold what its last entries for them give, or what was there before. -/
theorem get?_of_fieldsOf? {pairs : List (Value × Value)} {before given : Assoc Field Value}
    (read : fieldsOf? before pairs = .ok given) (field : Field) :
    given.get? field = (lastGiven? pairs field).or (before.get? field) := by
  induction pairs generalizing before with
  | nil =>
      cases read
      rfl
  | cons entry rest ih =>
      obtain ⟨key, value⟩ := entry
      rw [fieldsOf?] at read
      split at read
      · cases read
      · next named found =>
          rw [ih read, Assoc.get?_insert, lastGiven?_cons, found, Option.or_assoc]
          by_cases same : named = field <;> simp [same]

/-- A map is gone through to its end if and only if every key names a field. -/
theorem exists_fieldsOf?_iff {pairs : List (Value × Value)} (before : Assoc Field Value) :
    (∃ given, fieldsOf? before pairs = .ok given) ↔ ∀ entry ∈ pairs, ∃ field, Names entry.1 field := by
  induction pairs generalizing before with
  | nil => simp [fieldsOf?]
  | cons entry rest ih =>
      obtain ⟨key, value⟩ := entry
      rw [fieldsOf?, List.forall_mem_cons]
      split
      · next unnamed => simp [Names, unnamed]
      · next field named =>
          rw [ih]
          exact (and_iff_right ⟨field, named⟩).symm

theorem checkLimit_eq_ok_iff {given : Assoc Field Value} {field : Field} :
    checkLimit given field = .ok () ↔
      ∀ value, given.get? field = some value → ∃ n : Int, value = .int n ∧ 1 ≤ n := by
  rw [checkLimit]
  split
  · next absent => simp [absent]
  · next n found =>
      simp only [found, Option.some.injEq, forall_eq', Value.int.injEq, exists_eq_left']
      split
      · next low => simp only [reduceCtorEq, false_iff]; omega
      · next high => simp only [true_iff]; omega
  · next value other found =>
      simp only [reduceCtorEq, false_iff]
      intro integers
      obtain ⟨n, rfl, _⟩ := integers value found
      exact other n rfl

theorem checkFlag_eq_ok_iff {given : Assoc Field Value} {field : Field} :
    checkFlag given field = .ok () ↔ ∀ value, given.get? field = some value → ∃ b, value = .bool b := by
  rw [checkFlag]
  split
  · next absent => simp [absent]
  · next b found => simp [found]
  · next value other found =>
      simp only [reduceCtorEq, false_iff]
      intro truths
      obtain ⟨b, rfl⟩ := truths value found
      exact other b rfl

end PromptTemplate.Settings
