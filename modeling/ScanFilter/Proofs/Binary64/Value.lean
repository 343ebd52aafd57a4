import Mathlib.Algebra.Order.Field.Power
import Mathlib.Algebra.Order.Ring.Rat
import Mathlib.Order.Monotone.Odd
import Mathlib.Order.WithBot
import Mathlib.Tactic.Ring
import ScanFilter.Binary64
/-!
# The numbers of the doubles

Every finite double is a multiple of `2 ^ -1074`, the least positive one.  The rank of a
double tells which multiple: up to `2 ^ 53` each step up is one unit, and from there on
the step doubles after every `2 ^ 52` ranks.  Past the ranks of the doubles the points
run on as if there were further ones, so that no case has to be made of the largest.

* `units_grid` — the ranks of one grid are its multiples in turn;
* `point_lt_point` — ranks are in the order of their points;
* `value_eq_point`, `ratio_eq_point` — the number of a finite double is its point;
* `compare_eq_compare_number` — doubles other than NaN compare as their numbers.
-/

namespace ScanFilter.Binary64

theorem two_zpow_pos (k : ℤ) : (0 : ℚ) < 2 ^ k := zpow_pos (by norm_num) k

/-- A power as the quotient of two that are natural, one of them being one. -/
theorem zpow_eq_div {a : ℚ} (h : a ≠ 0) (k : ℤ) : a ^ k = a ^ k.toNat / a ^ (-k).toNat := by
  have exponent : k = (k.toNat : ℤ) - ((-k).toNat : ℤ) := by omega
  rw [← zpow_natCast, ← zpow_natCast, ← zpow_sub₀ h, ← exponent]

/-- How many times the least positive double goes into the one of a magnitude. -/
def units (m : ℕ) : ℕ :=
  if m < 0x10000000000000 then m
  else (0x10000000000000 + m % 0x10000000000000) * 2 ^ (m / 0x10000000000000 - 1)

/-- On the grid of a number the magnitudes count its multiples, up to the one that starts
the next grid. -/
theorem units_grid {j s : ℕ} (start : j = 0 ∨ 0x10000000000000 ≤ s)
    (stop : s ≤ 0x20000000000000) : units (j * 0x10000000000000 + s) = s * 2 ^ j := by
  unfold units
  by_cases low : s < 0x10000000000000
  · obtain rfl : j = 0 := by omega
    rw [if_pos (by omega), zero_mul, zero_add, pow_zero, mul_one]
  · rw [if_neg (by omega)]
    by_cases last : s = 0x20000000000000
    -- The last multiple of the grid is the first of the next one.
    · have exponent : (j * 0x10000000000000 + s) / 0x10000000000000 - 1 = j + 1 := by omega
      have rest : (j * 0x10000000000000 + s) % 0x10000000000000 = 0 := by omega
      rw [exponent, rest, last, pow_succ]
      ring
    · have exponent : (j * 0x10000000000000 + s) / 0x10000000000000 - 1 = j := by omega
      have rest : 0x10000000000000 + (j * 0x10000000000000 + s) % 0x10000000000000 = s := by
        omega
      rw [exponent, rest]

/-- Every magnitude is on some grid, and not the last there. -/
theorem exists_grid (m : ℕ) : ∃ j s, m = j * 0x10000000000000 + s ∧
    (j = 0 ∨ 0x10000000000000 ≤ s) ∧ s < 0x20000000000000 := by
  refine ⟨m / 0x10000000000000 - 1, m - (m / 0x10000000000000 - 1) * 0x10000000000000, ?_⟩
  omega

theorem units_strictMono : StrictMono units := by
  refine strictMono_nat_of_lt_succ fun m => ?_
  obtain ⟨j, s, rfl, start, stop⟩ := exists_grid m
  rw [Nat.add_assoc, units_grid start stop.le, units_grid (by omega) (by omega)]
  exact Nat.mul_lt_mul_of_pos_right (Nat.lt_succ_self s) (Nat.pow_pos (by decide))

/-- The number of a rank. -/
def point (i : ℤ) : ℚ := i.sign * units i.natAbs * 2 ^ (-1074 : ℤ)

theorem point_zero : point 0 = 0 := by
  rw [point, Int.sign_zero, Int.cast_zero, zero_mul, zero_mul]

theorem point_neg (i : ℤ) : point (-i) = -point i := by
  rw [point, point, Int.sign_neg, Int.natAbs_neg, Int.cast_neg, neg_mul, neg_mul]

theorem point_natCast (m : ℕ) : point m = units m * 2 ^ (-1074 : ℤ) := by
  rcases m with _ | m
  · rw [Nat.cast_zero, point_zero, units, if_pos (by decide), Nat.cast_zero, zero_mul]
  · rw [point, Int.natAbs_natCast, Int.sign_natCast_of_ne_zero m.succ_ne_zero, Int.cast_one,
      one_mul]

section Order

variable {i j : ℤ}

/-- Ranks are in the order of their points. -/
theorem point_lt_point (h : i < j) : point i < point j := by
  have increasing : StrictMono point := by
    refine strictMono_of_odd_strictMonoOn_nonneg point_neg fun m hm n hn less => ?_
    lift m to ℕ using hm
    lift n to ℕ using hn
    rw [point_natCast, point_natCast]
    exact mul_lt_mul_of_pos_right (Nat.cast_lt.mpr (units_strictMono (Int.ofNat_lt.mp less)))
      (two_zpow_pos _)
  exact increasing h

theorem point_le_point_iff : point i ≤ point j ↔ i ≤ j :=
  StrictMono.le_iff_le fun _ _ => point_lt_point

theorem point_injective : Function.Injective point :=
  StrictMono.injective fun _ _ => point_lt_point

end Order

/-- The point of a grid at a multiple of its unit. -/
theorem point_grid {q : ℤ} {s : ℕ} (low : -1074 ≤ q)
    (start : q = -1074 ∨ 0x10000000000000 ≤ s) (stop : s ≤ 0x20000000000000) :
    point ((q + 1074) * 0x10000000000000 + s) = s * 2 ^ q := by
  obtain ⟨j, rfl⟩ : ∃ j : ℕ, q = j - 1074 := ⟨(q + 1074).toNat, by omega⟩
  have rank : ((j : ℤ) - 1074 + 1074) * 0x10000000000000 + s
      = ((j * 0x10000000000000 + s : ℕ) : ℤ) := by
    push_cast
    ring
  rw [rank, point_natCast, units_grid (by omega) stop, Nat.cast_mul, Nat.cast_pow,
    Nat.cast_ofNat, mul_assoc, ← zpow_natCast, ← zpow_add₀ (by norm_num), ← sub_eq_add_neg]

/-- A number with a sign in front. -/
def withSignOf (negative : Bool) (r : ℚ) : ℚ := if negative then -r else r

/-- The number of a finite double. -/
def value (x : Binary64) : ℚ := withSignOf x.isNegative (x.significand * 2 ^ x.exponent)

theorem significand_mul (x : Binary64) :
    (x.significand : ℚ) * 2 ^ x.exponent = point x.magnitude := by
  unfold significand exponent
  rw [point_natCast, units]
  by_cases low : x.magnitude < 0x10000000000000
  · rw [if_pos low, if_pos low, if_pos low]
  · have exponent : ((x.magnitude / 0x10000000000000 : ℕ) : ℤ) - 1075
        = (x.magnitude / 0x10000000000000 - 1 : ℕ) + -1074 := by omega
    rw [if_neg low, if_neg low, if_neg low, exponent, zpow_add₀ (by norm_num), zpow_natCast,
      Nat.cast_mul, Nat.cast_pow, Nat.cast_ofNat, mul_assoc]

theorem value_eq_point (x : Binary64) : x.value = point x.rank := by
  rw [value, significand_mul, rank, withSignOf]
  split
  · rw [point_neg]
  · rfl

/-- The numerator and the denominator of a double are those of its point. -/
theorem ratio_eq_point (x : Binary64) :
    (x.ratio.1 : ℚ) / x.ratio.2 = point x.magnitude := by
  rw [← significand_mul, ratio, Nat.shiftLeft_eq, Nat.shiftLeft_eq, one_mul, Nat.cast_mul,
    Nat.cast_pow, Nat.cast_pow, Nat.cast_ofNat, mul_div_assoc, ← zpow_eq_div (by norm_num)]

/-- A rational number among the numbers that infinities are added to. -/
def exactly (r : ℚ) : WithBot (WithTop ℚ) := ((r : WithTop ℚ) : WithBot (WithTop ℚ))

/-- The number of a double other than NaN, the infinities beyond all others. -/
def number (x : Binary64) : WithBot (WithTop ℚ) :=
  if x.isFinite then exactly x.value
  else if x.isNegative then ⊥ else ((⊤ : WithTop ℚ) : WithBot (WithTop ℚ))

/-- The number of a rank. -/
def numberAt (i : ℤ) : WithBot (WithTop ℚ) :=
  if i ≤ -infinityMagnitude then ⊥
  else if infinityMagnitude ≤ i then ((⊤ : WithTop ℚ) : WithBot (WithTop ℚ))
  else exactly (point i)

theorem isFinite_iff {x : Binary64} :
    x.isFinite = true ↔ -infinityMagnitude < x.rank ∧ x.rank < infinityMagnitude := by
  unfold isFinite rank
  rw [decide_eq_true_iff]
  split <;> omega

theorem isNaN_eq_false_iff {x : Binary64} :
    x.isNaN = false ↔ -infinityMagnitude ≤ x.rank ∧ x.rank ≤ infinityMagnitude := by
  unfold isNaN rank
  rw [decide_eq_false_iff_not]
  split <;> omega

theorem isNaN_of_isFinite {x : Binary64} (h : x.isFinite = true) : x.isNaN = false := by
  have inside := isFinite_iff.mp h
  exact isNaN_eq_false_iff.mpr (by omega)

theorem number_of_isFinite {x : Binary64} (h : x.isFinite = true) :
    x.number = exactly x.value := if_pos h

theorem number_eq_numberAt {x : Binary64} (h : x.isNaN = false) :
    x.number = numberAt x.rank := by
  have bounds := isNaN_eq_false_iff.mp h
  unfold number numberAt
  by_cases finite : x.isFinite = true
  · have inside := isFinite_iff.mp finite
    rw [if_pos finite, if_neg (by omega), if_neg (by omega), value_eq_point]
  · have outside := mt isFinite_iff.mpr finite
    rw [if_neg finite]
    by_cases negative : x.isNegative = true
    · have low : x.rank = -x.magnitude := if_pos negative
      rw [if_pos negative, if_pos (by omega)]
    · have high : x.rank = x.magnitude := if_neg negative
      have large : 0 < infinityMagnitude := by decide
      rw [if_neg negative, if_neg (by omega), if_pos (by omega)]

theorem exactly_lt_exactly {r s : ℚ} : exactly r < exactly s ↔ r < s :=
  WithBot.coe_lt_coe.trans WithTop.coe_lt_coe

theorem numberAt_lt_numberAt {i j : ℤ} (low : -infinityMagnitude ≤ i) (less : i < j)
    (high : j ≤ infinityMagnitude) : numberAt i < numberAt j := by
  unfold numberAt
  rw [if_neg (show ¬ j ≤ _ by omega), if_neg (show ¬ _ ≤ i by omega)]
  by_cases least : i ≤ -infinityMagnitude
  · rw [if_pos least]
    split
    · exact WithBot.bot_lt_coe _
    · exact WithBot.bot_lt_coe _
  · rw [if_neg least]
    split
    · exact WithBot.coe_lt_coe.mpr (WithTop.coe_lt_top _)
    · exact exactly_lt_exactly.mpr (point_lt_point less)

/-- Members of two linear orders that are in one order compare alike. -/
theorem compare_congr {α β : Type} [LinearOrder α] [LinearOrder β] {a b : α} {c d : β}
    (lt : a < b → c < d) (eq : a = b → c = d) (gt : b < a → d < c) :
    Ord.compare c d = Ord.compare a b := by
  rcases lt_trichotomy a b with h | h | h
  · rw [compare_lt_iff_lt.mpr h, compare_lt_iff_lt.mpr (lt h)]
  · rw [compare_eq_iff_eq.mpr h, compare_eq_iff_eq.mpr (eq h)]
  · rw [compare_gt_iff_gt.mpr h, compare_gt_iff_gt.mpr (gt h)]

/-- Doubles other than NaN compare as their numbers. -/
theorem compare_eq_compare_number {x y : Binary64} (hx : x.isNaN = false)
    (hy : y.isNaN = false) : x.compare y = some (Ord.compare x.number y.number) := by
  obtain ⟨lowX, highX⟩ := isNaN_eq_false_iff.mp hx
  obtain ⟨lowY, highY⟩ := isNaN_eq_false_iff.mp hy
  rw [compare, hx, hy, number_eq_numberAt hx, number_eq_numberAt hy]
  refine congrArg some (Eq.symm ?_)
  exact compare_congr (fun less => numberAt_lt_numberAt lowX less highY) (congrArg numberAt)
    (fun less => numberAt_lt_numberAt lowY less highX)

end ScanFilter.Binary64
