import ScanFilter.Proofs.Binary64.Nearest
import ScanFilter.Proofs.Decimal.Numeral
/-!
# Decimals are rounded to the nearest double

A decimal that begins far behind the point is taken for zero, and one that begins far in
front of it for infinity, before any power of ten is formed.  Both are what rounding
gives: the one is below half of the least positive double, the other above all of them.

* `inCell_zero_of_place`, `le_of_place` — decimals that begin far from the point;
* `rounds_ofNumeral` — the double of a numeral is what its number is rounded to.
-/

namespace ScanFilter.Binary64

/-- The middle above zero is half of the least positive double. -/
theorem middle_zero : middle 0 = 2 ^ (-1075 : ℤ) := by
  have one : point 1 = 2 ^ (-1074 : ℤ) := by
    have grid := point_grid (q := -1074) (s := 1) le_rfl (.inl rfl) (by decide)
    rwa [neg_add_cancel, zero_mul, zero_add, Nat.cast_one, Nat.cast_one, one_mul] at grid
  have half : (-1074 : ℤ) = -1075 + 1 := by decide
  rw [middle, zero_add, point_zero, one, zero_add, half, zpow_add_one₀ (by norm_num),
    mul_div_cancel_right₀ _ (by norm_num)]

/-- The point of infinity is the power of two that no double reaches. -/
theorem point_infinity : point infinityMagnitude = 2 ^ (1024 : ℤ) := by
  have grid := point_grid (q := 972) (s := 0x10000000000000) (by decide) (by decide)
    (by decide)
  have unit : ((0x10000000000000 : ℕ) : ℚ) = 2 ^ (52 : ℤ) := by norm_num
  rwa [unit, ← zpow_add₀ (by norm_num)] at grid

theorem inCell_zero {r : ℚ} (nonneg : 0 ≤ r) (small : r < 2 ^ (-1075 : ℤ)) : InCell 0 r := by
  have below : middle (0 - 1) = -2 ^ (-1075 : ℤ) := by
    rw [← middle_zero, ← neg_eq_iff_eq_neg, ← middle_neg, neg_zero]
  have unit := two_zpow_pos (-1075)
  rw [← middle_zero] at small
  refine ⟨?_, small.le, fun _ => by decide, fun _ => by decide⟩
  rw [below]
  linarith

/-- A numeral that begins far behind the point is in the cell of zero. -/
theorem inCell_zero_of_place {n : Numeral} (h : n.place < -330) : InCell 0 n.value := by
  refine inCell_zero n.value_nonneg ?_
  calc n.value < 10 ^ n.place := n.value_lt
    _ ≤ 10 ^ (-330 : ℤ) := zpow_le_zpow_right₀ (by norm_num) h.le
    _ = ((10 ^ 33) ^ 10)⁻¹ := by rw [← pow_mul, zpow_neg, ← zpow_natCast]; rfl
    _ ≤ ((2 ^ 109) ^ 10)⁻¹ :=
        inv_anti₀ (by positivity) (pow_le_pow_left₀ (by norm_num) (by norm_num) 10)
    _ = 2 ^ (-1090 : ℤ) := by rw [← pow_mul, zpow_neg, ← zpow_natCast]; rfl
    _ ≤ 2 ^ (-1075 : ℤ) := zpow_le_zpow_right₀ (by norm_num) (by decide)

/-- A numeral that begins far in front of the point is above all doubles. -/
theorem le_of_place {n : Numeral} (nonzero : n.coefficient ≠ 0) (h : 310 < n.place) :
    point infinityMagnitude ≤ n.value := by
  rw [point_infinity]
  calc (2 : ℚ) ^ (1024 : ℤ)
      ≤ 2 ^ (1025 : ℤ) := zpow_le_zpow_right₀ (by norm_num) (by decide)
    _ = (2 ^ 205) ^ 5 := by rw [← pow_mul, ← zpow_natCast]; rfl
    _ ≤ (10 ^ 62) ^ 5 := pow_le_pow_left₀ (by norm_num) (by norm_num) 5
    _ = 10 ^ (310 : ℤ) := by rw [← pow_mul, ← zpow_natCast]; rfl
    _ ≤ 10 ^ (n.place - 1) := zpow_le_zpow_right₀ (by norm_num) (by omega)
    _ ≤ n.value := Numeral.le_value nonzero

/-- **Decimals are rounded to nearest.**  The double of a numeral with a sign is what its
number is rounded to, whatever its exponent. -/
theorem rounds_ofNumeral (negative : Bool) (n : Numeral) :
    Rounds (withSignOf negative n.value) (ofNumeral negative n) := by
  have denominator : 0 < Nat.pow 10 (-n.exponent).toNat := Nat.pow_pos (by decide)
  unfold ofNumeral
  by_cases small : n.coefficient = 0 ∨ n.place < -330
  · have cell : InCell 0 n.value := by
      rcases small with zero | far
      · have none : n.value = 0 := by rw [Numeral.value, zero, Nat.cast_zero, zero_mul]
        rw [none]
        exact inCell_zero le_rfl (two_zpow_pos _)
      · exact inCell_zero_of_place far
    rw [if_pos small]
    exact rounds_of_inCell (m := 0) negative cell
  · rw [if_neg small]
    obtain ⟨nonzero, _⟩ := not_or.mp small
    by_cases large : 310 < n.place
    · obtain ⟨m, cell, _⟩ := inCell_nearestMagnitude
        (n.coefficient * Nat.pow 10 n.exponent.toNat) denominator
      rw [← n.value_eq_div] at cell
      have past := (inCell_point infinityMagnitude).le cell (le_of_place nonzero large)
      have rounds := rounds_of_inCell negative cell
      rw [min_eq_right (Int.ofNat_le.mp past)] at rounds
      rw [if_pos large]
      exact rounds
    · rw [if_neg large, n.value_eq_div]
      exact rounds_ofRatio negative _ denominator

end ScanFilter.Binary64
