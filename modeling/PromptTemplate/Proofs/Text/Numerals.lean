import Mathlib
import PromptTemplate.Text.Basic

set_option autoImplicit false

namespace PromptTemplate.Text

theorem lt_ten_pow_length_ofNat (n : Nat) : n < 10 ^ (ofNat n).length := by
  induction n using Nat.strongRecOn with
  | ind n ih =>
      rw [ofNat, Nat.toDigits_eq_if (by decide)]
      split
      · next digit => simpa using digit
      · next long =>
          have head : n / 10 < 10 ^ (Nat.toDigits 10 (n / 10)).length := ih (n / 10) (by omega)
          rw [List.length_append, List.length_singleton, Nat.pow_succ]
          omega

theorem length_ofNat_le_iff {n most : Nat} (positive : 0 < most) : (ofNat n).length ≤ most ↔ n < 10 ^ most := by
  constructor
  · intro short
    exact Nat.lt_of_lt_of_le (lt_ten_pow_length_ofNat n) (Nat.pow_le_pow_right (by decide) short)
  · exact Nat.toDigits_length 10 n most positive

theorem leastUnnumbered_eq : leastUnnumbered = 10 ^ maxDigits := by
  unfold leastUnnumbered
  generalize maxDigits = most
  exact Nat.pow_eq

/-- There is a numeral for the numbers that are written with few enough digits. -/
theorem hasNumeral_iff_length_ofNat {n : Nat} : hasNumeral n = true ↔ (ofNat n).length ≤ maxDigits := by
  rw [hasNumeral_natCast_iff, leastUnnumbered_eq, length_ofNat_le_iff (by decide)]

theorem hasNumeral_ten_pow_iff {n : Nat} : hasNumeral (10 ^ n) = true ↔ n < maxDigits := by
  rw [hasNumeral_iff, leastUnnumbered_eq]
  generalize maxDigits = most
  rw [Int.natAbs_pow]
  exact Nat.pow_lt_pow_iff_right (by decide)

theorem hasNumeral_of_le_ten {n : Int} (nonneg : 0 ≤ n) (le : n ≤ 10) : hasNumeral n = true := by
  have ten : hasNumeral (10 ^ 1) = true := hasNumeral_ten_pow_iff.mpr (by decide)
  exact hasNumeral_of_le nonneg le ten

theorem hasNumeral_of_le_nat {m n : Nat} (le : m ≤ n) (short : hasNumeral n = true) : hasNumeral m = true :=
  hasNumeral_of_le (by omega) (by omega) short

/-- The words for a passed limit are written if there is a numeral for the number that passes it. -/
theorem hasNumeral_and_limit {limit : Int} {count : Nat} (positive : 1 ≤ limit) (above : limit < count) :
    (hasNumeral count && hasNumeral limit) = hasNumeral count := by
  cases counted : hasNumeral count with
  | false => rfl
  | true => exact hasNumeral_of_le (by omega) (Int.le_of_lt above) counted

end PromptTemplate.Text
