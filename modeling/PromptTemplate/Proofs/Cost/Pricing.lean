import PromptTemplate.Cost.InPlace
import PromptTemplate.Proofs.Decimal.Range
import PromptTemplate.Proofs.Expansion.Consistency

set_option autoImplicit false

namespace PromptTemplate

section

variable {room : Nat} {formula : Formula.Evaluator} {settings : Settings} (expansion : Expansion)
  {given : Option Value} {cost : Value}

theorem bill_of_refused {failure : Price.Failure} (chosen : given.or settings.perUnitCost = some cost)
    (refused : Price.read room formula .ok cost = .error failure) :
    expansion.bill room formula settings given = .error (.price failure) := by
  simp only [Expansion.bill, Workload.estimate, chosen, refused]
  rfl

theorem bill_of_unpriced (chosen : given.or settings.perUnitCost = none) :
    expansion.bill room formula settings given = .ok none := by
  simp only [Expansion.bill, chosen]
  rfl

theorem estimate_of_accepted (workload : Workload) {price : Float}
    (accepted : Price.read room formula .ok cost = .ok price) :
    workload.estimate room formula cost =
      match workload.estimate? price with
      | some estimate => .ok estimate
      | none => .error .countBeyondFloat := by
  rw [Workload.estimate, accepted]
  rfl

theorem bill_of_accepted {price : Float} (chosen : given.or settings.perUnitCost = some cost)
    (accepted : Price.read room formula .ok cost = .ok price) :
    expansion.bill room formula settings given =
      match expansion.workload.estimate? price with
      | some estimate => .ok (some estimate)
      | none => .error .countBeyondFloat := by
  simp only [Expansion.bill, chosen, estimate_of_accepted expansion.workload accepted]
  cases expansion.workload.estimate? price <;> rfl

end

/-- An expansion is not billed if it is valid and has more units than a float can count. -/
theorem estimate?_eq_none_iff (settings : Settings) (catalog : Catalog) (prompt : Text) (price : Float) :
    (expand settings catalog prompt).workload.estimate? price = none ↔
      Decimal.leastBeyondFloat ≤ (expand settings catalog prompt).totalCount := by
  cases valid : (expand settings catalog prompt).isValid with
  | false =>
      have counted := ((expand_consistent settings catalog prompt).empty valid).2.1
      have positive := Decimal.leastBeyondFloat_pos
      rw [Workload.estimate?_of_refused valid, counted]
      simp only [reduceCtorEq, false_iff]
      omega
  | true =>
      have reckoned : (expand settings catalog prompt).workload.estimate? price =
          (Decimal.floatOfInt? (expand settings catalog prompt).totalCount).map _ :=
        Workload.estimate?_of_valid valid price
      rw [reckoned, Option.map_eq_none_iff, Decimal.floatOfInt?_eq_none_iff]

end PromptTemplate
