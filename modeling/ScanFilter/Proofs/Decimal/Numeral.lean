import Mathlib.Algebra.Order.Field.Power
import Mathlib.Algebra.Order.Ring.Rat
import Mathlib.Tactic.Ring
import ScanFilter.Proofs.Text.Numeral
/-!
# The number of a numeral

The place of the first digit of a numeral bounds its number between two neighbouring
powers of ten, however large the exponent.

* `value_lt`, `le_value` — the powers of ten around a number;
* `value_eq_div` — a number as a quotient of natural numbers;
* `value_trim` — zeros at the end of the coefficient do not matter.
-/

namespace ScanFilter.Numeral

/-- The number that a numeral stands for. -/
def value (n : Numeral) : ℚ := n.coefficient * 10 ^ n.exponent

/-- A power of ten is positive. -/
theorem ten_zpow_pos (e : ℤ) : (0 : ℚ) < 10 ^ e := zpow_pos (by norm_num) e

/-- A natural power of ten as a rational number. -/
theorem cast_pow_ten (k : ℕ) : ((Nat.pow 10 k : ℕ) : ℚ) = 10 ^ (k : ℤ) := by
  rw [zpow_natCast]
  exact Nat.cast_pow 10 k

theorem value_nonneg (n : Numeral) : 0 ≤ n.value :=
  mul_nonneg (Nat.cast_nonneg _) (ten_zpow_pos _).le

/-- A number begins below its place. -/
theorem value_lt (n : Numeral) : n.value < 10 ^ n.place := by
  have bound : (n.coefficient : ℚ) < 10 ^ (digitCount n.coefficient : ℤ) := by
    rw [← cast_pow_ten]
    exact Nat.cast_lt.mpr (lt_pow_digitCount n.coefficient)
  calc n.value
      < 10 ^ (digitCount n.coefficient : ℤ) * 10 ^ n.exponent :=
        mul_lt_mul_of_pos_right bound (ten_zpow_pos _)
    _ = 10 ^ n.place := (zpow_add₀ (by norm_num) ..).symm

/-- A number other than zero reaches the place of its first digit. -/
theorem le_value {n : Numeral} (h : n.coefficient ≠ 0) : 10 ^ (n.place - 1) ≤ n.value := by
  have count := digitCount_pos n.coefficient
  have bound : (10 : ℚ) ^ ((digitCount n.coefficient - 1 : ℕ) : ℤ) ≤ n.coefficient := by
    rw [← cast_pow_ten]
    exact Nat.cast_le.mpr (pow_le_of_digitCount h)
  have exponent : n.place - 1 = ((digitCount n.coefficient - 1 : ℕ) : ℤ) + n.exponent := by
    unfold place
    omega
  calc (10 : ℚ) ^ (n.place - 1)
      = 10 ^ ((digitCount n.coefficient - 1 : ℕ) : ℤ) * 10 ^ n.exponent := by
        rw [exponent, zpow_add₀ (by norm_num)]
    _ ≤ n.value := mul_le_mul_of_nonneg_right bound (ten_zpow_pos _).le

/-- A number as a quotient; its denominator is one if the exponent is not negative. -/
theorem value_eq_div (n : Numeral) :
    n.value = ((n.coefficient * Nat.pow 10 n.exponent.toNat : ℕ) : ℚ)
      / (Nat.pow 10 (-n.exponent).toNat : ℕ) := by
  have parts : (n.exponent : ℤ) = n.exponent.toNat - (-n.exponent).toNat := by omega
  rw [Nat.cast_mul, cast_pow_ten, cast_pow_ten, mul_div_assoc, ← zpow_sub₀ (by norm_num),
    ← parts]
  rfl

/-- Without the zeros at the end of its coefficient a numeral is the same number. -/
theorem value_trim (n : Numeral) : n.trim.value = n.value := by
  fun_induction trim n with
  | case1 n ends ih =>
      have tenth : n.coefficient = n.coefficient / 10 * 10 := by omega
      rw [ih, value, value, zpow_add_one₀ (by norm_num)]
      conv => rhs; rw [tenth, Nat.cast_mul, Nat.cast_ofNat]
      ring
  | case2 n ends => rfl

end ScanFilter.Numeral
