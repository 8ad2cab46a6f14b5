import Mathlib
import PromptTemplate.Decimal.Binary

set_option autoImplicit false

namespace PromptTemplate.Decimal

theorem double_div (num : Nat) {den : Nat} (positive : 0 < den) :
    2 * num / den = 2 * (num / den) + if 2 * (num % den) < den then 0 else 1 := by
  have whole := Nat.div_add_mod num den
  have below := Nat.mod_lt num positive
  have parts : 2 * num = den * (2 * (num / den)) + 2 * (num % den) := by
    rw [Nat.mul_left_comm, ← Nat.mul_add, whole]
  rw [parts, Nat.mul_add_div positive]
  congr 1
  split_ifs with small
  · exact Nat.div_eq_of_lt small
  · rw [Nat.div_eq_iff positive]
    omega

/-- A quotient is rounded to below an even bound if and only if it is more than a half below it: the half
itself goes to the bound. -/
theorem roundQuotient_lt_iff (num : Nat) {den bound : Nat} (positive : 0 < den)
    (even : bound % 2 = 0) :
    roundQuotient num den < bound ↔ 2 * num < (2 * bound - 1) * den := by
  rw [← Nat.div_lt_iff_lt_mul positive, double_div num positive]
  simp only [roundQuotient]
  split_ifs <;> omega

theorem roundQuotient_bounds (num den : Nat) :
    num / den ≤ roundQuotient num den ∧ roundQuotient num den ≤ num / den + 1 := by
  simp only [roundQuotient]
  split_ifs <;> omega

theorem roundQuotient_one (num : Nat) : roundQuotient num 1 = num := by
  simp [roundQuotient, Nat.mod_one]

/-- The first guess at the exponent of a whole number is one too small. -/
theorem fitsAt_whole {n : Nat} (positive : n ≠ 0) : fitsAt n 1 ((n.log2 : Int) - 53) = false := by
  have low := (Nat.le_log2 positive).mp (Nat.le_refl n.log2)
  simp only [fitsAt, Nat.pow_eq, Nat.div_one, Nat.one_mul]
  split
  · have shift : 2 ^ 53 = 2 ^ n.log2 * 2 ^ ((n.log2 : Int) - 53).natAbs := by
      rw [← Nat.pow_add]
      congr 1
      omega
    rw [decide_eq_false_iff_not, Nat.not_lt, shift]
    exact Nat.mul_le_mul_right _ low
  · have shift : 53 + ((n.log2 : Int) - 53).natAbs = n.log2 := by omega
    rw [decide_eq_false_iff_not, Nat.not_lt, Nat.le_div_iff_mul_le (Nat.two_pow_pos _),
      ← Nat.pow_add, shift]
    exact low

theorem exponentOfQuotient_whole {n : Nat} (positive : n ≠ 0) :
    exponentOfQuotient n 1 = (n.log2 : Int) - 52 := by
  have unit : Nat.log2 1 = 0 := by decide
  have allowed : ¬ (n.log2 : Int) - 53 + 1 < leastExponent := by
    rw [leastExponent]
    omega
  simp only [exponentOfQuotient, unit, Int.natCast_zero, Int.sub_zero, fitsAt_whole positive,
    Bool.false_eq_true, ↓reduceIte, if_neg allowed]
  omega

theorem significandAt_one (num e : Nat) :
    significandAt num 1 e = roundQuotient num (2 ^ e) := by
  rw [significandAt, if_neg (by omega), Int.natAbs_natCast, Nat.one_mul, Nat.pow_eq]

/-- The significand of a whole number has 53 bits, or is the power of two behind them. -/
theorem significandAt_bounds {n : Nat} (positive : n ≠ 0) :
    2 ^ 52 ≤ significandAt n 1 ((n.log2 : Int) - 52) ∧
      significandAt n 1 ((n.log2 : Int) - 52) ≤ 2 ^ 53 := by
  have low := (Nat.le_log2 positive).mp (Nat.le_refl n.log2)
  have high := (Nat.log2_lt positive).mp (Nat.lt_succ_self n.log2)
  simp only [significandAt, roundQuotient_one, Nat.one_mul, Nat.pow_eq]
  split
  · have shift : ∀ more, 2 ^ (52 + more) =
        2 ^ (n.log2 + more) * 2 ^ ((n.log2 : Int) - 52).natAbs := by
      intro more
      rw [← Nat.pow_add]
      congr 1
      omega
    rw [shift 0, shift 1]
    exact ⟨Nat.mul_le_mul_right _ low, Nat.mul_le_mul_right _ (Nat.le_of_lt high)⟩
  · have shift : ∀ more, 52 + more + ((n.log2 : Int) - 52).natAbs = n.log2 + more := by omega
    have bounds := roundQuotient_bounds n (2 ^ ((n.log2 : Int) - 52).natAbs)
    have above : 2 ^ (52 + 0) ≤ n / 2 ^ ((n.log2 : Int) - 52).natAbs := by
      rw [Nat.le_div_iff_mul_le (Nat.two_pow_pos _), ← Nat.pow_add, shift 0]
      exact low
    have below : n / 2 ^ ((n.log2 : Int) - 52).natAbs < 2 ^ (52 + 1) := by
      rw [Nat.div_lt_iff_lt_mul (Nat.two_pow_pos _), ← Nat.pow_add, shift 1]
      exact high
    exact ⟨Nat.le_trans above bounds.1, Nat.le_trans bounds.2 below⟩

theorem bitsOfQuotient?_whole {n : Nat} (positive : n ≠ 0) :
    bitsOfQuotient? n 1 = none ↔
      2047 * 2 ^ 52 ≤
        (n.log2 + 1023) * 2 ^ 52 + (significandAt n 1 ((n.log2 : Int) - 52) - 2 ^ 52) := by
  have normal := Nat.not_lt.mpr (significandAt_bounds positive).1
  have biased : ((n.log2 : Int) - 52 - leastExponent + 1).toNat = n.log2 + 1023 := by
    rw [leastExponent]
    omega
  simp only [bitsOfQuotient?, if_neg positive, exponentOfQuotient_whole positive, bitsOfSignificand,
    Nat.pow_eq, if_neg normal, biased]
  split
  · simp only [reduceCtorEq, false_iff]
    omega
  · simp only [true_iff]
    omega

/-- The least count beyond the largest float. -/
def leastBeyondFloat : Nat :=
  2 ^ 1024 - 2 ^ 970

/-- A count is beyond the largest float if and only if it rounds to `2 ^ 1024` or more. -/
theorem floatOfInt?_eq_none_iff (n : Nat) : floatOfInt? n = none ↔ leastBeyondFloat ≤ n := by
  have unit : 0 < 2 ^ 970 := by positivity
  have powers : ∀ more, 2 ^ (more + 970) = 2 ^ more * 2 ^ 970 := fun more => pow_add 2 more 970
  have top : 2 ^ 1024 = 2 ^ 54 * 2 ^ 970 := by simpa only [Nat.reduceAdd] using powers 54
  have half : 2 ^ 1023 = 2 ^ 53 * 2 ^ 970 := by simpa only [Nat.reduceAdd] using powers 53
  have next : 2 ^ 971 = 2 ^ 1 * 2 ^ 970 := by simpa only [Nat.reduceAdd] using powers 1
  have whole : floatOfInt? n = none ↔ bitsOfQuotient? n 1 = none := by
    simp [floatOfInt?, floatOfQuotient?]
  rw [whole, leastBeyondFloat, top]
  by_cases zero : n = 0
  · subst zero
    simp only [bitsOfQuotient?, ↓reduceIte, reduceCtorEq, false_iff]
    omega
  · have bounds := significandAt_bounds zero
    rw [bitsOfQuotient?_whole zero]
    rcases Nat.lt_trichotomy n.log2 1023 with small | last | large
    · have below := (Nat.log2_lt zero).mp small
      omega
    · have rounded : significandAt n 1 ((n.log2 : Int) - 52) < 2 ^ 53 ↔
          2 * n < (2 * 2 ^ 53 - 1) * 2 ^ 971 := by
        have shift : ((1023 : Nat) : Int) - 52 = (971 : Nat) := by decide
        rw [last, shift, significandAt_one,
          roundQuotient_lt_iff n (by positivity) (by decide)]
      omega
    · have above := (Nat.le_log2 zero).mp large
      omega

theorem leastBeyondFloat_pos : 0 < leastBeyondFloat := by
  rw [Nat.pos_iff_ne_zero]
  intro zero
  have beyond := (floatOfInt?_eq_none_iff 0).mpr (Nat.le_of_eq zero)
  simp [floatOfInt?, floatOfQuotient?, bitsOfQuotient?] at beyond

end PromptTemplate.Decimal
