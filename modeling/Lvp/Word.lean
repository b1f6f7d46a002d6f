import Mathlib.Algebra.Order.Ring.Int

/-!
64-bit words read as numbers. A `u64` and an `i64` of the same bits stand for the same number exactly
below 2^63, and a product or a difference is exact exactly when it stays in range.
-/

namespace Word

variable {word a b : UInt64} {signed : Int64}

theorem toInt_toInt64 (word : UInt64) :
    word.toInt64.toInt = if word.toNat < 2 ^ 63 then (word.toNat : Int) else word.toNat - 2 ^ 64 := by
  show word.toBitVec.toInt = _
  rw [BitVec.toInt_eq_toNat_cond]
  simp only [UInt64.toNat_toBitVec]
  split <;> split <;> omega

theorem toInt64_exact : word.toInt64.toInt = word.toNat ↔ word.toNat < 2 ^ 63 := by
  rw [toInt_toInt64]
  split <;> omega

theorem toInt64_nonneg : 0 ≤ word.toInt64.toInt ↔ word.toNat < 2 ^ 63 := by
  have bound := word.toNat_lt
  rw [toInt_toInt64]
  split <;> omega

theorem toUInt64_nonneg : 0 ≤ signed.toInt ↔ signed.toUInt64.toNat < 2 ^ 63 := by
  rw [← toInt64_nonneg, Int64.toInt64_toUInt64]

theorem toUInt64_exact (nonneg : 0 ≤ signed.toInt) : (signed.toUInt64.toNat : Int) = signed.toInt := by
  have small := toUInt64_nonneg.mp nonneg
  rw [← toInt64_exact.mpr small, Int64.toInt64_toUInt64]

theorem mul_exact (fits : a.toNat * b.toNat < 2 ^ 64) : (a * b).toNat = a.toNat * b.toNat := by
  rw [UInt64.toNat_mul]
  exact Nat.mod_eq_of_lt fits

theorem sub_exact (below : b.toNat ≤ a.toNat) : (a - b).toNat = a.toNat - b.toNat :=
  UInt64.toNat_sub_of_le a b below

end Word
