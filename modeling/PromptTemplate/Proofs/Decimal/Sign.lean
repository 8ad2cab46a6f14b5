import PromptTemplate.Proofs.Decimal.Range

set_option autoImplicit false

namespace PromptTemplate.Decimal

open Float.Model (Format)
open Float.Model.UnpackedFloat

theorem lt_zero_iff (x : Float) : x < 0.0 ↔ x.toModel.unpack.lt (.zero .positive) = true :=
  decide_eq_true_iff

theorem zero_le_iff (x : Float) : 0.0 ≤ x ↔ Float.Model.UnpackedFloat.le (.zero .positive) x.toModel.unpack = true :=
  decide_eq_true_iff

theorem not_lt_zero_iff (x : Float) : ¬ x < 0.0 ↔ x.isNaN = true ∨ 0.0 ≤ x := by
  have nan : x.isNaN = x.toModel.unpack.isNaN := rfl
  rw [lt_zero_iff, zero_le_iff, nan]
  cases x.toModel.unpack with
  | notANumber => decide
  | infinity sign => cases sign <;> decide
  | zero sign => cases sign <;> decide
  | finite sign mantissa exponent positive =>
      cases sign <;> simp [Float.Model.UnpackedFloat.lt, Float.Model.UnpackedFloat.le,
        Float.Model.UnpackedFloat.compare, Float.Model.UnpackedFloat.isNaN]

theorem not_zero_le_of_isNaN {x : Float} (nan : x.isNaN = true) : ¬ 0.0 ≤ x := by
  have unpacked : x.toModel.unpack = .notANumber := Float.Model.UnpackedFloat.isNaN_iff.mp nan
  rw [zero_le_iff, unpacked]
  decide

/-- Bits stand for no number if their exponent is the largest and their fraction is not zero. -/
theorem isNaN_unpack (bits : BitVec 64) : (unpack Format.binary64 bits).isNaN = @isNaNBits Format.binary64 bits := by
  simp only [unpack, isNaNBits]
  split_ifs <;> simp_all [Float.Model.UnpackedFloat.isNaN]

theorem isNaN_ofBits (bits : UInt64) :
    (Float.ofBits bits).isNaN = @isNaNBits Format.binary64 bits.toBitVec := by
  have packed : (Float.ofBits bits).isNaN =
      (unpack Format.binary64 (pack Format.binary64 (unpack Format.binary64 bits.toBitVec))).isNaN := rfl
  rw [packed, pack_unpack, isNaN_unpack]
  split
  · next nan => rw [nan, isNaNBits_packedNaN]
  · rfl

/-- Bits whose exponent is not the largest one stand for a number, with either sign. -/
theorem isNaN_ofBits_of_lt {bits : Nat} (finite : bits < (Nat.pow 2 11 - 1) * Nat.pow 2 52) (negative : Bool) :
    (Float.ofBits (UInt64.ofNat (if negative then bits + Nat.pow 2 63 else bits))).isNaN = false := by
  rw [isNaN_ofBits, isNaNBits, decide_eq_false_iff_not]
  rintro ⟨exponent, _⟩
  -- The field of the exponent is the quotient by `2 ^ 52` below the sign, which is less than 2047.
  rw [unpackExponent_def] at exponent
  have largest := congrArg BitVec.toNat exponent
  simp only [BitVec.extractLsb'_toNat, UInt64.toNat_toBitVec, UInt64.toNat_ofNat', Nat.shiftRight_eq_div_pow] at largest
  norm_num at finite largest
  split at largest <;> omega

theorem isNaN_of_floatOfInt? {n : Int} {x : Float} (nearest : floatOfInt? n = some x) : x.isNaN = false := by
  obtain ⟨bits, found, rfl⟩ := Option.map_eq_some_iff.mp nearest
  refine isNaN_ofBits_of_lt ?_ (n < 0)
  simp only [bitsOfQuotient?] at found
  split_ifs at found with zero finite
  · cases found
    decide
  · cases found
    exact finite

/-- An integer is beyond the largest float if and only if its size is. -/
theorem floatOfInt?_eq_none_iff_natAbs (n : Int) : floatOfInt? n = none ↔ leastBeyondFloat ≤ n.natAbs := by
  have size : floatOfInt? n = none ↔ floatOfInt? (n.natAbs : Nat) = none := by
    simp only [floatOfInt?, floatOfQuotient?, Option.map_eq_none_iff, Int.natAbs_natCast]
  rw [size, floatOfInt?_eq_none_iff]

end PromptTemplate.Decimal
