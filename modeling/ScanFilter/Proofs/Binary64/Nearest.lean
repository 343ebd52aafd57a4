import ScanFilter.Proofs.Binary64.Rounding
/-!
# The nearest double

Of all finite doubles the one that a number is rounded to is nearest to the number, and
where another is as near its significand is even.  For the numbers of 64-bit integers the
converse holds as well, because none of them comes near the largest double; and integers
up to `2 ^ 53` are doubles themselves.

* `Nearest` — the double nearest to a number, by its distance from all finite ones;
* `nearest_iff_inCell`, `Rounds.rank_eq_iff` — rounding finds just the nearest double;
* `Rounds.value_eq` — a small integer is rounded to itself;
* `Rounds.lt_number`, `Rounds.number_lt` — rounding never turns an order around.
-/

namespace ScanFilter.Binary64

variable {i : ℤ} {r : ℚ} {x y d : Binary64}

/-- Whether a finite double is nearest to a number, and its significand even where another
is as near. -/
structure Nearest (r : ℚ) (x : Binary64) : Prop where
  finite : x.isFinite = true
  least : ∀ y : Binary64, y.isFinite = true → |r - x.value| ≤ |r - y.value|
  even : ∀ y : Binary64, y.isFinite = true → y.value ≠ x.value →
    |r - y.value| = |r - x.value| → Even x.significand

/-- Every rank between the infinities is that of a finite double. -/
theorem exists_of_rank (low : -infinityMagnitude < i) (high : i < infinityMagnitude) :
    ∃ x : Binary64, x.isFinite = true ∧ x.rank = i := by
  have rank : (ofMagnitude (decide (i < 0)) i.natAbs).rank = i := by
    rw [rank_ofMagnitude _ (by omega)]
    by_cases negative : i < 0
    · rw [if_pos (decide_eq_true negative)]
      omega
    · rw [if_neg (by simpa using negative)]
      omega
  refine ⟨_, isFinite_iff.mpr ?_, rank⟩
  rw [rank]
  exact ⟨low, high⟩

/-- The rank of a double is even just if its significand is. -/
theorem even_rank_iff : Even x.rank ↔ Even x.significand := by
  have parity : Even x.rank ↔ Even x.magnitude := by
    unfold rank
    split
    · rw [even_neg, Int.even_coe_nat]
    · rw [Int.even_coe_nat]
  rw [parity, Nat.even_iff, Nat.even_iff, significand]
  split <;> omega

/-! ## Cells and distances -/

theorem InCell.least_above {j : ℤ} (h : InCell i r) (after : i < j) :
    |r - point i| ≤ |r - point j| ∧ (|r - point j| = |r - point i| → Even i) := by
  have low := h.low
  have high := h.high
  unfold middle at low high
  rw [sub_add_cancel] at low
  have before : point (i - 1) < point i := point_lt_point (by omega)
  have next : point i < point (i + 1) := point_lt_point (by omega)
  have near : point (i + 1) ≤ point j := point_le_point_iff.mpr (by omega)
  have far : |r - point j| = point j - r := by
    rw [abs_sub_comm]
    exact abs_of_nonneg (by linarith)
  rw [far]
  refine ⟨abs_le.mpr ⟨by linarith, by linarith⟩, fun same => h.evenHigh ?_⟩
  unfold middle
  rcases abs_choice (r - point i) with side | side
  · rw [side] at same
    linarith
  · rw [side] at same
    linarith

theorem abs_neg_sub_point (i : ℤ) (r : ℚ) : |-r - point (-i)| = |r - point i| := by
  rw [point_neg, neg_sub_neg, abs_sub_comm]

/-- No point is nearer to a number in the cell of a rank than that of the rank, and one is
as near only if the rank is even. -/
theorem InCell.least {j : ℤ} (h : InCell i r) (other : j ≠ i) :
    |r - point i| ≤ |r - point j| ∧ (|r - point j| = |r - point i| → Even i) := by
  rcases lt_or_gt_of_ne other with before | after
  · have mirrored := h.neg.least_above (neg_lt_neg before)
    rwa [abs_neg_sub_point, abs_neg_sub_point, even_neg] at mirrored
  · exact h.least_above after

/-- A number that is not nearer to the next point, if there is one for the doubles, is not
above the middle to it. -/
theorem le_middle_of_least (bound : r ≤ point (infinityMagnitude - 1))
    (inside : i < infinityMagnitude)
    (least : i + 1 < infinityMagnitude → |r - point i| ≤ |r - point (i + 1)| ∧
      (|r - point (i + 1)| = |r - point i| → Even i)) :
    r ≤ middle i ∧ (r = middle i → Even i) := by
  have step := point_lt_point (Int.lt_succ i)
  by_cases last : i + 1 < infinityMagnitude
  · obtain ⟨near, even⟩ := least last
    refine ⟨?_, fun same => even ?_⟩
    · by_contra above
      unfold middle at above
      have far : |r - point (i + 1)| < r - point i :=
        abs_lt.mpr ⟨by linarith, by linarith⟩
      exact absurd (near.trans_lt far) (not_lt.mpr (le_abs_self _))
    · unfold middle at same
      rw [abs_sub_comm]
      exact congrArg abs (by linarith)
  · obtain rfl : i = infinityMagnitude - 1 := by omega
    have below := bound.trans_lt (point_lt_middle _)
    exact ⟨below.le, fun same => absurd same below.ne⟩

/-- A finite double is nearest to a number, unless this is beyond all of them, just if the
number is in its cell. -/
theorem nearest_iff_inCell (bound : |r| ≤ point (infinityMagnitude - 1)) :
    Nearest r x ↔ x.isFinite = true ∧ InCell x.rank r := by
  constructor
  · intro h
    obtain ⟨low, high⟩ := isFinite_iff.mp h.finite
    have least {j : ℤ} (other : j ≠ x.rank) (first : -infinityMagnitude < j)
        (last : j < infinityMagnitude) : |r - point x.rank| ≤ |r - point j| ∧
          (|r - point j| = |r - point x.rank| → Even x.rank) := by
      obtain ⟨y, finite, rfl⟩ := exists_of_rank first last
      rw [← value_eq_point, ← value_eq_point, even_rank_iff]
      refine ⟨h.least y finite, h.even y finite fun same => other ?_⟩
      rw [value_eq_point, value_eq_point] at same
      exact point_injective same
    have upper := le_middle_of_least ((le_abs_self r).trans bound) high
      fun last => least (by omega) (by omega) last
    have lower := le_middle_of_least (i := -x.rank) ((neg_le_abs r).trans bound) (by omega)
      fun last => by
        rw [show -x.rank + 1 = -(x.rank - 1) by omega, abs_neg_sub_point, abs_neg_sub_point,
          even_neg]
        exact least (by omega) (by omega) (by omega)
    rw [middle_neg, neg_le_neg_iff, neg_inj, even_neg] at lower
    exact ⟨h.finite, lower.1, upper.1, lower.2, upper.2⟩
  · rintro ⟨finite, h⟩
    refine ⟨finite, fun y _ => ?_, fun y _ other tie => ?_⟩
    · rw [value_eq_point, value_eq_point]
      by_cases same : y.rank = x.rank
      · rw [same]
      · exact (h.least same).1
    · rw [value_eq_point, value_eq_point] at other tie
      have apart : y.rank ≠ x.rank := fun same => other (congrArg point same)
      exact even_rank_iff.mp ((h.least apart).2 tie)

/-! ## Integers -/

theorem point_of_64_bits : point 0x43f0000000000000 = 0x10000000000000000 := by
  have grid := point_grid (q := 12) (s := 0x10000000000000) (by decide) (by decide) (by decide)
  norm_num at grid ⊢
  exact grid

/-- An integer in the signed range of 64 bits is far below the largest double. -/
theorem abs_le_of_range {n : ℤ} (low : -0x8000000000000000 ≤ n)
    (high : n < 0x8000000000000000) : |(n : ℚ)| ≤ 0x10000000000000000 := by
  have bound : |n| ≤ 0x10000000000000000 := abs_le.mpr (by omega)
  exact_mod_cast bound

/-- No 64-bit integer comes near the largest double. -/
theorem le_of_64_bits {r : ℚ} (bound : |r| ≤ 0x10000000000000000) :
    |r| ≤ point (infinityMagnitude - 1) := by
  rw [← point_of_64_bits] at bound
  exact bound.trans (point_le_point_iff.mpr (by decide))

/-- An integer of 64 bits is rounded to a finite double, in the cell of which it is. -/
theorem Rounds.inCell_of_64_bits (h : Rounds r x) (bound : |r| ≤ 0x10000000000000000) :
    x.isFinite = true ∧ InCell x.rank r := by
  obtain ⟨i, cell, rank⟩ := h
  rw [← point_of_64_bits, abs_le, ← point_neg] at bound
  have low := (inCell_point _).le cell bound.1
  have high := cell.le (inCell_point _) bound.2
  have same : x.rank = i := by
    rw [rank, infinityMagnitude]
    omega
  rw [isFinite_iff, same]
  exact ⟨⟨by rw [infinityMagnitude]; omega, by rw [infinityMagnitude]; omega⟩, cell⟩

/-- The doubles that an integer of 64 bits is rounded to are just those nearest to it. -/
theorem Rounds.rank_eq_iff (h : Rounds r x) (bound : |r| ≤ 0x10000000000000000) :
    x.rank = d.rank ↔ Nearest r d := by
  obtain ⟨finite, cell⟩ := h.inCell_of_64_bits bound
  rw [nearest_iff_inCell (le_of_64_bits bound)]
  constructor
  · intro same
    rw [isFinite_iff, same] at finite
    rw [same] at cell
    exact ⟨isFinite_iff.mpr finite, cell⟩
  · intro nearest
    exact cell.eq nearest.2

/-- Doubling brings a number up to `2 ^ 53` to the grid of the units. -/
theorem exists_doubling {n : ℕ} (positive : n ≠ 0) (h : n ≤ 0x20000000000000) :
    ∃ j ≤ 52, 0x10000000000000 ≤ n * 2 ^ j ∧ n * 2 ^ j ≤ 0x20000000000000 := by
  by_cases last : n = 0x20000000000000
  · exact ⟨0, by decide, by omega, by omega⟩
  · have short : n.log2 < 53 := (Nat.log2_lt positive).mpr (by omega)
    have total : n.log2 + (52 - n.log2) = 52 := by omega
    refine ⟨52 - n.log2, by omega, ?_, ?_⟩
    · calc 0x10000000000000
          = 2 ^ n.log2 * 2 ^ (52 - n.log2) := by
            rw [← pow_add, total]
            norm_num
        _ ≤ n * 2 ^ (52 - n.log2) := Nat.mul_le_mul_right _ (Nat.log2_self_le positive)
    · calc n * 2 ^ (52 - n.log2)
          ≤ 2 ^ (n.log2 + 1) * 2 ^ (52 - n.log2) := Nat.mul_le_mul_right _ Nat.lt_log2_self.le
        _ = 0x20000000000000 := by
            rw [pow_succ, mul_right_comm, ← pow_add, total]
            norm_num

/-- A number up to `2 ^ 53`, times a power of two, is the number of a rank. -/
theorem exists_point_mul {m : ℕ} (small : m ≤ 0x20000000000000) (k : ℕ) :
    ∃ i, point i = m * 2 ^ k := by
  by_cases zero : m = 0
  · exact ⟨0, by rw [point_zero, zero, Nat.cast_zero, zero_mul]⟩
  · obtain ⟨j, bound, low, high⟩ := exists_doubling zero small
    have grid := point_grid (q := k - j) (by omega) (.inr low) high
    refine ⟨_, grid.trans ?_⟩
    rw [Nat.cast_mul, Nat.cast_pow, Nat.cast_ofNat, ← zpow_natCast, ← zpow_natCast, mul_assoc,
      ← zpow_add₀ (by norm_num), add_sub_cancel]

/-- An integer up to `2 ^ 53` is the number of a rank. -/
theorem exists_point {n : ℤ} (h : n.natAbs ≤ 0x20000000000000) : ∃ i, point i = n := by
  obtain ⟨m, here⟩ := exists_point_mul h 0
  rw [pow_zero, mul_one, Nat.cast_natAbs] at here
  rcases abs_choice n with side | side
  · exact ⟨m, by rw [here, side]⟩
  · exact ⟨-m, by rw [point_neg, here, side, Int.cast_neg, neg_neg]⟩

/-- An integer up to `2 ^ 53` is rounded to itself. -/
theorem Rounds.value_eq {n : ℤ} (h : Rounds n x) (small : n.natAbs ≤ 0x20000000000000) :
    x.isFinite = true ∧ x.value = n := by
  obtain ⟨i, here⟩ := exists_point small
  have bound : |(n : ℚ)| ≤ 0x10000000000000000 := by
    rw [← Int.cast_abs, ← Nat.cast_natAbs]
    exact_mod_cast small.trans (by decide)
  obtain ⟨finite, cell⟩ := h.inCell_of_64_bits bound
  rw [← here] at cell
  exact ⟨finite, by rw [value_eq_point, cell.eq (inCell_point i), here]⟩

/-! ## Order -/

/-- A number that a double is at most is rounded to one that the double is at most. -/
theorem Rounds.rank_le_of_number_le (h : Rounds r x) (hd : d.isNaN = false)
    (le : d.number ≤ exactly r) : d.rank ≤ x.rank := by
  have bounds := isNaN_eq_false_iff.mp h.isNaN
  have inside := isNaN_eq_false_iff.mp hd
  rw [number_eq_numberAt hd, numberAt] at le
  split at le
  · omega
  · next high =>
      split at le
      · exact absurd (WithBot.coe_le_coe.mp le) (WithTop.coe_lt_top r).not_ge
      · have finite : d.isFinite = true := isFinite_iff.mpr (by omega)
        refine (rounds_value finite).rank_le h ?_
        rw [value_eq_point]
        exact not_lt.mp fun less => absurd le (exactly_lt_exactly.mpr less).not_ge

/-- A number that is at most a double is rounded to one that is at most the double. -/
theorem Rounds.rank_le_of_le_number (h : Rounds r x) (hd : d.isNaN = false)
    (le : exactly r ≤ d.number) : x.rank ≤ d.rank := by
  have bounds := isNaN_eq_false_iff.mp h.isNaN
  have inside := isNaN_eq_false_iff.mp hd
  rw [number_eq_numberAt hd, numberAt] at le
  split at le
  · exact absurd le (WithBot.bot_lt_coe _).not_ge
  · split at le
    · omega
    · have finite : d.isFinite = true := isFinite_iff.mpr (by omega)
      refine h.rank_le (rounds_value finite) ?_
      rw [value_eq_point]
      exact not_lt.mp fun less => absurd le (exactly_lt_exactly.mpr less).not_ge

/-- A number that is rounded to less than a double is less. -/
theorem Rounds.lt_number (h : Rounds r x) (hd : d.isNaN = false) (less : x.rank < d.rank) :
    exactly r < d.number := by
  by_contra notLess
  exact absurd (h.rank_le_of_number_le hd (not_lt.mp notLess)) less.not_ge

/-- A number that is rounded to more than a double is more. -/
theorem Rounds.number_lt (h : Rounds r x) (hd : d.isNaN = false) (less : d.rank < x.rank) :
    d.number < exactly r := by
  by_contra notLess
  exact absurd (h.rank_le_of_le_number hd (not_lt.mp notLess)) less.not_ge

end ScanFilter.Binary64
