import ScanFilter.Proofs.Decimal.Numeral
import ScanFilter.Proofs.Decimal.Text
/-!
# The number of a decimal

Comparison never forms the number of a decimal, whose scale may be huge: it
looks at the signs, then at the places of the first digits, and only numbers that
begin at the same place are multiplied out.  All the same it decides the order of
the rational numbers.

* `compare_eq_compare_value` — decimals compare as their numbers;
* `value_canonical` — the canonical form of a decimal is the same number.
-/

namespace ScanFilter.Decimal

open Numeral (cast_pow_ten digitCount ten_zpow_pos)

/-- The number that a decimal stands for. -/
def value (d : Decimal) : ℚ := d.unscaled * 10 ^ (-d.scale.toInt)

/-- An integer as a decimal is the integer. -/
theorem value_ofInt (n : Int) : (ofInt n).value = n := by
  have scale : (0 : Int64).toInt = 0 := by decide
  rw [value, ofInt, scale, neg_zero, zpow_zero, mul_one]

/-- The absolute value of that number. -/
def magnitude (d : Decimal) : ℚ := d.unscaled.natAbs * 10 ^ (-d.scale.toInt)

/-- A number that is not negative is its absolute value. -/
theorem value_of_nonneg {d : Decimal} (h : 0 ≤ d.unscaled) : d.value = d.magnitude := by
  have cast := congrArg (Int.cast : ℤ → ℚ) (Int.natAbs_of_nonneg h)
  rw [Int.cast_natCast] at cast
  rw [value, magnitude, cast]

/-- A negative number is its absolute value, turned around. -/
theorem value_of_neg {d : Decimal} (h : d.unscaled < 0) : d.value = -d.magnitude := by
  have abs : (d.unscaled.natAbs : ℤ) = -d.unscaled := by omega
  have cast := congrArg (Int.cast : ℤ → ℚ) abs
  rw [Int.cast_natCast, Int.cast_neg] at cast
  rw [value, magnitude, cast, neg_mul, neg_neg]

/-- A number begins below its place. -/
theorem magnitude_lt (d : Decimal) : d.magnitude < 10 ^ d.place :=
  Numeral.value_lt ⟨d.unscaled.natAbs, -d.scale.toInt⟩

/-- A number other than zero reaches the place of its first digit. -/
theorem le_magnitude {d : Decimal} (h : d.unscaled ≠ 0) : 10 ^ (d.place - 1) ≤ d.magnitude :=
  Numeral.le_value (n := ⟨d.unscaled.natAbs, -d.scale.toInt⟩) (Int.natAbs_ne_zero.mpr h)

/-- A number that begins at a smaller place is smaller. -/
theorem magnitude_lt_of_place_lt {a b : Decimal} (hb : b.unscaled ≠ 0)
    (h : a.place < b.place) : a.magnitude < b.magnitude :=
  calc a.magnitude
      < 10 ^ a.place := magnitude_lt a
    _ ≤ 10 ^ (b.place - 1) := zpow_le_zpow_right₀ (by norm_num) (by omega)
    _ ≤ b.magnitude := le_magnitude hb

/-- An absolute value on the grid of a scale that is at least its own. -/
theorem magnitude_on_grid (d : Decimal) {m : ℤ} (h : d.scale.toInt ≤ m) :
    d.magnitude
      = ((d.unscaled.natAbs * Nat.pow 10 (m - d.scale.toInt).toNat : ℕ) : ℚ) * 10 ^ (-m) := by
  have shift : ((m - d.scale.toInt).toNat : ℤ) = m - d.scale.toInt :=
    Int.toNat_of_nonneg (by omega)
  have power : ((Nat.pow 10 (m - d.scale.toInt).toNat : ℕ) : ℚ) = 10 ^ (m - d.scale.toInt) := by
    rw [cast_pow_ten, shift]
  have exponent : -d.scale.toInt = (m - d.scale.toInt) + -m := by omega
  rw [magnitude, exponent, zpow_add₀ (by norm_num), Nat.cast_mul, power]
  ring

/-- Multiples of a positive number compare as their factors. -/
theorem compare_natCast_mul (m n : ℕ) {unit : ℚ} (h : 0 < unit) :
    compare ((m : ℚ) * unit) (n * unit) = compare m n := by
  rcases lt_trichotomy m n with hmn | rfl | hmn
  · have cast : (m : ℚ) < n := Nat.cast_lt.mpr hmn
    rw [compare_lt_iff_lt.mpr hmn, compare_lt_iff_lt.mpr (mul_lt_mul_of_pos_right cast h)]
  · rw [compare_eq_iff_eq.mpr rfl, compare_eq_iff_eq.mpr rfl]
  · have cast : (n : ℚ) < m := Nat.cast_lt.mpr hmn
    rw [compare_gt_iff_gt.mpr hmn, compare_gt_iff_gt.mpr (mul_lt_mul_of_pos_right cast h)]

/-- Absolute values compare as the rational numbers that they are. -/
theorem compareAbs_eq_compare {a b : Decimal} (ha : a.unscaled ≠ 0) (hb : b.unscaled ≠ 0) :
    a.compareAbs b = compare a.magnitude b.magnitude := by
  unfold compareAbs
  rcases lt_trichotomy a.place b.place with h | h | h
  · have lower := magnitude_lt_of_place_lt hb h
    rw [compare_lt_iff_lt.mpr h, compare_lt_iff_lt.mpr lower]
    rfl
  · have left := magnitude_on_grid a (le_max_left a.scale.toInt b.scale.toInt)
    have right := magnitude_on_grid b (le_max_right a.scale.toInt b.scale.toInt)
    have ea : max a.scale.toInt b.scale.toInt - a.scale.toInt
        = max 0 (b.scale.toInt - a.scale.toInt) := by omega
    have eb : max a.scale.toInt b.scale.toInt - b.scale.toInt
        = max 0 (a.scale.toInt - b.scale.toInt) := by omega
    have cut : ∀ k : ℤ, (max 0 k).toNat = k.toNat := by omega
    rw [ea, cut] at left
    rw [eb, cut] at right
    rw [compare_eq_iff_eq.mpr h, left, right, compare_natCast_mul _ _ (ten_zpow_pos _)]
    rfl
  · have lower := magnitude_lt_of_place_lt ha h
    rw [compare_gt_iff_gt.mpr h, compare_gt_iff_gt.mpr lower]
    rfl

/-- Turning two numbers around exchanges them. -/
theorem compare_neg (x y : ℚ) : compare (-x) (-y) = compare y x := by
  rcases lt_trichotomy x y with h | rfl | h
  · rw [compare_gt_iff_gt.mpr h, compare_gt_iff_gt.mpr (neg_lt_neg h)]
  · rw [compare_eq_iff_eq.mpr rfl, compare_eq_iff_eq.mpr rfl]
  · rw [compare_lt_iff_lt.mpr h, compare_lt_iff_lt.mpr (neg_lt_neg h)]

/-- A decimal of smaller sign is the smaller number. -/
theorem value_lt_of_sign_lt {a b : Decimal} (h : a.unscaled.sign < b.unscaled.sign) :
    a.value < b.value := by
  have parts : a.unscaled < 0 ∧ 0 ≤ b.unscaled ∨ a.unscaled ≤ 0 ∧ 0 < b.unscaled := by
    rcases lt_trichotomy a.unscaled 0 with ha | ha | ha <;>
      rcases lt_trichotomy b.unscaled 0 with hb | hb | hb <;>
      simp_all [Int.sign_eq_neg_one_of_neg, Int.sign_eq_one_of_pos, le_of_lt]
  have left := ten_zpow_pos (-a.scale.toInt)
  have right := ten_zpow_pos (-b.scale.toInt)
  rcases parts with ⟨ha, hb⟩ | ⟨ha, hb⟩
  · calc a.value
        < 0 := mul_neg_of_neg_of_pos (Int.cast_lt_zero.mpr ha) left
      _ ≤ b.value := mul_nonneg (Int.cast_nonneg hb) (le_of_lt right)
  · calc a.value
        ≤ 0 := mul_nonpos_of_nonpos_of_nonneg (Int.cast_nonpos.mpr ha) (le_of_lt left)
      _ < b.value := mul_pos (Int.cast_pos.mpr hb) right

/-- **Comparison is exact.**  Decimals compare as the rational numbers that they
stand for. -/
theorem compare_eq_compare_value (a b : Decimal) :
    a.compare b = compare a.value b.value := by
  unfold Decimal.compare
  rcases lt_trichotomy a.unscaled.sign b.unscaled.sign with h | h | h
  · rw [compare_lt_iff_lt.mpr h, compare_lt_iff_lt.mpr (value_lt_of_sign_lt h)]
    rfl
  · rw [compare_eq_iff_eq.mpr h, Ordering.eq_then]
    rcases lt_trichotomy a.unscaled 0 with ha | ha | ha
    · have hb : b.unscaled < 0 := by
        rwa [Int.sign_eq_neg_one_of_neg ha, eq_comm, Int.sign_eq_neg_one_iff_neg] at h
      rw [if_neg ha.ne, if_pos ha, compareAbs_eq_compare hb.ne ha.ne, value_of_neg ha,
        value_of_neg hb, compare_neg]
    · have hb : b.unscaled = 0 := by
        rwa [ha, Int.sign_zero, eq_comm, Int.sign_eq_zero_iff_zero] at h
      rw [if_pos ha, value, value, ha, hb, Int.cast_zero, zero_mul, zero_mul]
      exact (compare_eq_iff_eq.mpr rfl).symm
    · have hb : 0 < b.unscaled := by
        rwa [Int.sign_eq_one_of_pos ha, eq_comm, Int.sign_eq_one_iff_pos] at h
      rw [if_neg ha.ne', if_neg ha.le.not_gt, compareAbs_eq_compare ha.ne' hb.ne',
        value_of_nonneg ha.le, value_of_nonneg hb.le]
  · rw [compare_gt_iff_gt.mpr h, compare_gt_iff_gt.mpr (value_lt_of_sign_lt h)]
    rfl

/-- The canonical form of a decimal is the same number. -/
theorem value_canonical (d : Decimal) : d.canonical.value = d.value := by
  by_cases zero : d.unscaled = 0
  · rw [canonical_zero zero, value, value, zero, Int.cast_zero, zero_mul, zero_mul]
  · by_cases whole : -15 ≤ d.scale.toInt ∧ d.scale.toInt ≤ 0
    · have exponent : ((-d.scale.toInt).toNat : ℤ) = -d.scale.toInt :=
        Int.toNat_of_nonneg (by omega)
      have unit : (10 : ℚ) ^ (-(0 : Int64).toInt) = 1 := by
        rw [show (0 : Int64).toInt = 0 by decide, neg_zero, zpow_zero]
      rw [canonical_whole zero whole, value, value, unit, mul_one, Int.cast_mul,
        Int.cast_natCast, cast_pow_ten, exponent]
    · rw [canonical_other zero whole]

end ScanFilter.Decimal
