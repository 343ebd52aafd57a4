import Mathlib.Algebra.Order.Field.Basic
import Mathlib.Algebra.Ring.Parity
import Mathlib.Tactic.Linarith
import ScanFilter.Binary64.Rounding
import ScanFilter.Proofs.Binary64.Value
/-!
# Rounding goes to the nearest double

The middles between neighbouring points cut the rational numbers into **cells**, one for
each rank; a middle belongs to the even one of its two ranks.  Rounding takes a number to
the rank of its cell, and to infinity where that rank is past the finite ones.  What is
needed of rounding follows from this: it keeps the order of numbers, and it leaves the
number of a double alone.

* `InCell.le` — cells are in the order of their ranks;
* `inCell_nearestMagnitude` — the magnitude that rounding finds has the cell of the
  quotient;
* `rounds_ofRatio`, `rounds_ofInt` — quotients and integers are rounded;
* `Rounds.rank_le` — rounding keeps the order of numbers.
-/

namespace ScanFilter.Binary64

/-! ## Cells -/

/-- The number half way from the point of a rank to the next point. -/
def middle (i : ℤ) : ℚ := (point i + point (i + 1)) / 2

theorem point_lt_middle (i : ℤ) : point i < middle i := by
  have step := point_lt_point (Int.lt_succ i)
  unfold middle
  linarith

theorem middle_lt_point (i : ℤ) : middle i < point (i + 1) := by
  have step := point_lt_point (Int.lt_succ i)
  unfold middle
  linarith

theorem middle_lt_middle {i j : ℤ} (h : i < j) : middle i < middle j := by
  have next : point (i + 1) ≤ point j := point_le_point_iff.mpr h
  exact (middle_lt_point i).trans_le (next.trans (point_lt_middle j).le)

theorem middle_neg (i : ℤ) : middle (-i) = -middle (i - 1) := by
  have next : -i + 1 = -(i - 1) := by omega
  unfold middle
  rw [next, point_neg, point_neg, sub_add_cancel]
  ring

/-- Whether a number is in the cell of a rank: it lies between the middles around its
point, and is a middle only if the rank is even. -/
structure InCell (i : ℤ) (r : ℚ) : Prop where
  low : middle (i - 1) ≤ r
  high : r ≤ middle i
  evenLow : r = middle (i - 1) → Even i
  evenHigh : r = middle i → Even i

namespace InCell

variable {i j : ℤ} {r s : ℚ}

theorem neg (h : InCell i r) : InCell (-i) (-r) := by
  have upper : middle (-i) = -middle (i - 1) := middle_neg i
  have lower : middle (-i - 1) = -middle i := by
    rw [← neg_add', middle_neg, add_sub_cancel_right]
  refine ⟨?_, ?_, fun same => ?_, fun same => ?_⟩
  · rw [lower]
    exact neg_le_neg h.high
  · rw [upper]
    exact neg_le_neg h.low
  · rw [lower, neg_inj] at same
    exact (h.evenHigh same).neg
  · rw [upper, neg_inj] at same
    exact (h.evenLow same).neg

/-- Cells are in the order of their ranks. -/
theorem le (hi : InCell i r) (hj : InCell j s) (h : r ≤ s) : i ≤ j := by
  by_contra less
  -- Only the middle between neighbours could be in both cells, and one of them is odd.
  have low := hi.low
  have high := hj.high
  obtain rfl : j = i - 1 := by
    by_contra apart
    have order : middle j < middle (i - 1) := middle_lt_middle (by omega)
    linarith
  have even := hi.evenLow (by linarith)
  have odd := Int.even_sub_one.mp (hj.evenHigh (by linarith))
  exact odd even

/-- A number is in one cell only. -/
theorem eq (hi : InCell i r) (hj : InCell j r) : i = j :=
  Int.le_antisymm (hi.le hj le_rfl) (hj.le hi le_rfl)

end InCell

/-- A point is in the cell of its rank. -/
theorem inCell_point (i : ℤ) : InCell i (point i) := by
  have low := middle_lt_point (i - 1)
  have high := point_lt_middle i
  rw [sub_add_cancel] at low
  exact ⟨low.le, high.le, fun same => absurd same low.ne', fun same => absurd same high.ne⟩

/-! ## Rounding a quotient -/

/-- Whether a natural number is one nearest to a rational, the even one of two. -/
structure NearestInteger (s : ℕ) (t : ℚ) : Prop where
  low : s - 1 / 2 ≤ t
  high : t ≤ s + 1 / 2
  evenLow : t = s - 1 / 2 → Even s
  evenHigh : t = s + 1 / 2 → Even s

/-- A tie between two integers goes to the even one. -/
theorem even_nearestInteger (num : ℕ) {den : ℕ} (h : 0 < den)
    (tie : 2 * num + den = 2 * nearestInteger num den * den ∨
      2 * num = 2 * nearestInteger num den * den + den) : Even (nearestInteger num den) := by
  have split := Nat.div_add_mod num den
  have small := Nat.mod_lt num h
  have low : num / den * den = den * (num / den) := Nat.mul_comm ..
  unfold nearestInteger at tie ⊢
  simp only at tie ⊢
  split_ifs at tie ⊢ with below above
  · rw [Nat.mul_assoc, low] at tie
    omega
  · rw [Nat.mul_assoc, Nat.add_mul, low] at tie
    omega
  · rw [Nat.even_iff]
    omega

theorem nearestInteger_nearest (num : ℕ) {den : ℕ} (h : 0 < den) :
    NearestInteger (nearestInteger num den) (num / den) := by
  have positive : (0 : ℚ) < den := Nat.cast_pos.mpr h
  obtain ⟨above, below⟩ := nearestInteger_near num h
  have above : 2 * (num : ℚ) ≤ 2 * nearestInteger num den * den + den := mod_cast above
  have below : 2 * (nearestInteger num den : ℚ) * den ≤ 2 * num + den := mod_cast below
  refine ⟨?_, ?_, fun same => ?_, fun same => ?_⟩
  · rw [le_div_iff₀ positive]
    linarith
  · rw [div_le_iff₀ positive]
    linarith
  · rw [div_eq_iff positive.ne'] at same
    have tie : 2 * (num : ℚ) + den = 2 * nearestInteger num den * den := by linarith
    exact even_nearestInteger num h (.inl (mod_cast tie))
  · rw [div_eq_iff positive.ne'] at same
    have tie : 2 * (num : ℚ) = 2 * nearestInteger num den * den + den := by linarith
    exact even_nearestInteger num h (.inr (mod_cast tie))

section Grid

variable {q : ℤ} {s : ℕ} {r : ℚ}

/-- A number on the grid of an exponent, up to the middle above it. -/
theorem le_middle_of_nearest (low : -1074 ≤ q) (start : q = -1074 ∨ 0x10000000000000 ≤ s)
    (small : s ≤ 0x20000000000000) (stop : r < 0x20000000000000 * 2 ^ q)
    (nearest : NearestInteger s (r / 2 ^ q)) :
    r ≤ middle ((q + 1074) * 0x10000000000000 + s) ∧
    (r = middle ((q + 1074) * 0x10000000000000 + s) → Even s) := by
  have unit := two_zpow_pos q
  have here := point_grid low start small
  by_cases last : s = 0x20000000000000
  · have above := point_lt_middle ((q + 1074) * 0x10000000000000 + s)
    rw [here, last] at above
    rw [last]
    push_cast at above ⊢
    refine ⟨(stop.trans above).le, fun same => ?_⟩
    linarith
  · have next := point_grid (s := s + 1) low (by omega) (by omega)
    have middle : middle ((q + 1074) * 0x10000000000000 + s) = (s + 1 / 2) * 2 ^ q := by
      rw [Nat.cast_add, Nat.cast_one, ← add_assoc] at next
      rw [middle, here, next]
      push_cast
      ring
    rw [middle]
    refine ⟨(div_le_iff₀ unit).mp nearest.high, fun same => nearest.evenHigh ?_⟩
    rw [same, mul_div_cancel_right₀ _ unit.ne']

/-- A number on the grid of an exponent, down to the middle below it. -/
theorem middle_le_of_nearest (low : -1074 ≤ q) (start : q = -1074 ∨ 0x10000000000000 ≤ s)
    (small : s ≤ 0x20000000000000) (nonneg : 0 ≤ r)
    (reached : q = -1074 ∨ 0x10000000000000 * 2 ^ q ≤ r)
    (nearest : NearestInteger s (r / 2 ^ q)) :
    middle ((q + 1074) * 0x10000000000000 + s - 1) ≤ r ∧
    (r = middle ((q + 1074) * 0x10000000000000 + s - 1) → Even s) := by
  have unit := two_zpow_pos q
  have here := point_grid low start small
  -- The first number of a grid has a closer one below it, or none at all.
  by_cases first : s = 0 ∨ (s = 0x10000000000000 ∧ q ≠ -1074)
  · have above := middle_lt_point ((q + 1074) * 0x10000000000000 + s - 1)
    rw [sub_add_cancel, here] at above
    have first : (s : ℚ) * 2 ^ q ≤ r := by
      rcases first with zero | ⟨edge, inner⟩
      · rw [zero, Nat.cast_zero, zero_mul]
        exact nonneg
      · rw [edge]
        exact_mod_cast reached.resolve_left inner
    refine ⟨(above.trans_le first).le, fun same => ?_⟩
    linarith
  · obtain ⟨t, rfl⟩ : ∃ t, s = t + 1 := ⟨s - 1, by omega⟩
    have before := point_grid (s := t) low (by omega) (by omega)
    have place : (q + 1074) * 0x10000000000000 + ((t + 1 : ℕ) : ℤ) - 1
        = (q + 1074) * 0x10000000000000 + t := by
      push_cast
      ring
    have next : (q + 1074) * 0x10000000000000 + (t : ℤ) + 1
        = (q + 1074) * 0x10000000000000 + ((t + 1 : ℕ) : ℤ) := by
      push_cast
      ring
    have middle : middle ((q + 1074) * 0x10000000000000 + t)
        = (((t + 1 : ℕ) : ℚ) - 1 / 2) * 2 ^ q := by
      rw [middle, before, next, here]
      push_cast
      ring
    rw [place, middle]
    refine ⟨(le_div_iff₀ unit).mp nearest.low, fun same => nearest.evenLow ?_⟩
    rw [same, mul_div_cancel_right₀ _ unit.ne']

/-- The rank of the integer nearest to a quotient on its grid has the quotient in its
cell. -/
theorem inCell_of_nearest (low : -1074 ≤ q) (nonneg : 0 ≤ r)
    (reached : q = -1074 ∨ 0x10000000000000 * 2 ^ q ≤ r) (stop : r < 0x20000000000000 * 2 ^ q)
    (nearest : NearestInteger s (r / 2 ^ q)) :
    InCell ((q + 1074) * 0x10000000000000 + s) r := by
  have unit := two_zpow_pos q
  have small : s ≤ 0x20000000000000 := by
    have below : r / 2 ^ q < 0x20000000000000 := (div_lt_iff₀ unit).mpr stop
    have near := nearest.low
    have bound : (s : ℚ) < (0x20000000000001 : ℕ) := by
      push_cast
      linarith
    exact Nat.lt_succ_iff.mp (Nat.cast_lt.mp bound)
  have start : q = -1074 ∨ 0x10000000000000 ≤ s := by
    refine reached.imp_right fun edge => ?_
    have above : 0x10000000000000 ≤ r / 2 ^ q := (le_div_iff₀ unit).mpr edge
    have near := nearest.high
    have bound : ((0xfffffffffffff : ℕ) : ℚ) < s := by
      push_cast
      linarith
    exact Nat.cast_lt.mp bound
  have parity : Even s → Even ((q + 1074) * 0x10000000000000 + (s : ℤ)) := by
    intro even
    exact (Even.mul_left (by decide) _).add ((Int.even_coe_nat s).mpr even)
  obtain ⟨high, evenHigh⟩ := le_middle_of_nearest low start small stop nearest
  obtain ⟨below, evenLow⟩ := middle_le_of_nearest low start small nonneg reached nearest
  exact ⟨below, high, fun same => parity (evenLow same), fun same => parity (evenHigh same)⟩

end Grid

theorem log2_bounds {n : ℕ} (h : n ≠ 0) :
    (2 : ℚ) ^ (n.log2 : ℤ) ≤ n ∧ (n : ℚ) < 2 ^ ((n.log2 : ℤ) + 1) := by
  constructor
  · rw [zpow_natCast]
    exact_mod_cast Nat.log2_self_le h
  · have above : n < 2 ^ (n.log2 + 1) := Nat.lt_log2_self
    exact_mod_cast above

/-- A quotient is between two neighbouring powers of two. -/
theorem binaryPlace_bounds {num den : ℕ} (hn : num ≠ 0) (hd : den ≠ 0) :
    (2 : ℚ) ^ binaryPlace num den ≤ num / den ∧
    (num : ℚ) / den < 2 ^ (binaryPlace num den + 1) := by
  have positive : (0 : ℚ) < den := Nat.cast_pos.mpr (Nat.pos_of_ne_zero hd)
  obtain ⟨lowNum, highNum⟩ := log2_bounds hn
  obtain ⟨lowDen, highDen⟩ := log2_bounds hd
  -- The lengths of both leave two powers, and the test decides between them.
  have high : (num : ℚ) / den < 2 ^ ((num.log2 : ℤ) - den.log2 + 1) := by
    rw [div_lt_iff₀ positive]
    calc (num : ℚ) < 2 ^ ((num.log2 : ℤ) + 1) := highNum
      _ = 2 ^ ((num.log2 : ℤ) - den.log2 + 1) * 2 ^ (den.log2 : ℤ) := by
          rw [← zpow_add₀ (by norm_num)]
          ring_nf
      _ ≤ 2 ^ ((num.log2 : ℤ) - den.log2 + 1) * den :=
          mul_le_mul_of_nonneg_left lowDen (two_zpow_pos _).le
  have low : 2 ^ ((num.log2 : ℤ) - den.log2 - 1) ≤ (num : ℚ) / den := by
    rw [le_div_iff₀ positive]
    calc (2 : ℚ) ^ ((num.log2 : ℤ) - den.log2 - 1) * den
        ≤ 2 ^ ((num.log2 : ℤ) - den.log2 - 1) * 2 ^ ((den.log2 : ℤ) + 1) :=
          mul_le_mul_of_nonneg_left highDen.le (two_zpow_pos _).le
      _ = 2 ^ (num.log2 : ℤ) := by
          rw [← zpow_add₀ (by norm_num)]
          ring_nf
      _ ≤ num := lowNum
  have test (k : ℤ) : den <<< k.toNat ≤ num <<< (-k).toNat ↔ 2 ^ k ≤ (num : ℚ) / den := by
    rw [zpow_eq_div (by norm_num), div_le_div_iff₀ (by positivity) positive,
      Nat.shiftLeft_eq, Nat.shiftLeft_eq, mul_comm den]
    exact_mod_cast Iff.rfl
  unfold binaryPlace
  simp only [test]
  split
  · next reached => exact ⟨reached, high⟩
  · next short =>
      rw [sub_add_cancel]
      exact ⟨low, not_le.mp short⟩

/-- A quotient is rounded to the rank of its cell, or to infinity. -/
theorem inCell_nearestMagnitude (num : ℕ) {den : ℕ} (h : 0 < den) :
    ∃ m : ℕ, InCell m (num / den) ∧ nearestMagnitude num den = min m infinityMagnitude := by
  unfold nearestMagnitude
  by_cases zero : num = 0
  · refine ⟨0, ?_, by rw [if_pos zero, Nat.zero_min]⟩
    have here := inCell_point 0
    rw [point_zero] at here
    simpa [zero] using here
  · rw [if_neg zero]
    refine ⟨_, ?_, rfl⟩
    obtain ⟨low, high⟩ := binaryPlace_bounds zero h.ne'
    have grid : -1074 ≤ gridExponent num den := le_max_right ..
    have shifted : ((num <<< (-gridExponent num den).toNat : ℕ) : ℚ)
        / (den <<< (gridExponent num den).toNat : ℕ)
          = num / den / 2 ^ gridExponent num den := by
      rw [zpow_eq_div (by norm_num), Nat.shiftLeft_eq, Nat.shiftLeft_eq]
      push_cast
      rw [div_div_div_eq]
    have nearest := nearestInteger_nearest (num <<< (-gridExponent num den).toNat)
      (show 0 < den <<< (gridExponent num den).toNat by rw [Nat.shiftLeft_eq]; positivity)
    rw [shifted] at nearest
    have rank : ((gridExponent num den + 1074).toNat : ℤ) = gridExponent num den + 1074 :=
      Int.toNat_of_nonneg (by omega)
    push_cast
    rw [rank]
    refine inCell_of_nearest grid (by positivity) ?_ ?_ nearest
    · by_cases least : gridExponent num den = -1074
      · exact .inl least
      · have inner : gridExponent num den + 52 = binaryPlace num den := by
          unfold gridExponent at least ⊢
          omega
        refine .inr ?_
        calc (0x10000000000000 : ℚ) * 2 ^ gridExponent num den
            = 2 ^ binaryPlace num den := by
              rw [← inner, zpow_add₀ (by norm_num), mul_comm]
              norm_num
          _ ≤ num / den := low
    · have above : binaryPlace num den + 1 ≤ gridExponent num den + 53 := by
        unfold gridExponent
        omega
      calc (num : ℚ) / den < 2 ^ (binaryPlace num den + 1) := high
        _ ≤ 2 ^ (gridExponent num den + 53) := zpow_le_zpow_right₀ (by norm_num) above
        _ = 0x20000000000000 * 2 ^ gridExponent num den := by
            rw [zpow_add₀ (by norm_num), mul_comm]
            norm_num

/-! ## Rounding to a double -/

/-- Whether a double is what a number is rounded to: its rank is that of the cell of the
number, or that of an infinity where the cell is past the finite ranks. -/
def Rounds (r : ℚ) (x : Binary64) : Prop :=
  ∃ i, InCell i r ∧ x.rank = max (-(infinityMagnitude : ℤ)) (min i infinityMagnitude)

theorem rank_ofMagnitude (negative : Bool) {m : ℕ} (h : m ≤ infinityMagnitude) :
    (ofMagnitude negative m).rank = if negative then -(m : ℤ) else m := by
  have small : m < 0x8000000000000000 := lt_of_le_of_lt h (by decide)
  unfold rank
  rw [magnitude_ofMagnitude negative small, isNegative_ofMagnitude negative small]

theorem rounds_of_inCell {m : ℕ} {r : ℚ} (negative : Bool) (h : InCell m r) :
    Rounds (withSignOf negative r) (ofMagnitude negative (min m infinityMagnitude)) := by
  have large : 0 < infinityMagnitude := by decide
  have rank := rank_ofMagnitude negative (Nat.min_le_right m infinityMagnitude)
  cases negative with
  | false =>
      refine ⟨m, h, rank.trans ?_⟩
      rw [if_neg Bool.false_ne_true]
      omega
  | true =>
      refine ⟨-m, h.neg, rank.trans ?_⟩
      rw [if_pos rfl]
      omega

theorem rounds_ofRatio (negative : Bool) (num : ℕ) {den : ℕ} (h : 0 < den) :
    Rounds (withSignOf negative (num / den)) (ofRatio negative num den) := by
  obtain ⟨m, cell, found⟩ := inCell_nearestMagnitude num h
  rw [ofRatio, found]
  exact rounds_of_inCell negative cell

/-- An integer is rounded to its double. -/
theorem rounds_ofInt (n : ℤ) : Rounds n (ofInt n) := by
  have number : (n : ℚ) = withSignOf (decide (n < 0)) (n.natAbs / (1 : ℕ)) := by
    rw [Nat.cast_one, div_one, withSignOf, Nat.cast_natAbs]
    split
    · next negative => rw [abs_of_neg (of_decide_eq_true negative), Int.cast_neg, neg_neg]
    · next nonneg =>
        rw [abs_of_nonneg (not_lt.mp fun negative => nonneg (decide_eq_true negative))]
  rw [number]
  exact rounds_ofRatio _ _ Nat.one_pos

variable {r s : ℚ} {x y : Binary64}

/-- A finite double is rounded to itself. -/
theorem rounds_value (h : x.isFinite = true) : Rounds x.value x := by
  have inside := isFinite_iff.mp h
  refine ⟨x.rank, ?_, by omega⟩
  rw [value_eq_point]
  exact inCell_point x.rank

/-- Rounding keeps the order of numbers. -/
theorem Rounds.rank_le (hx : Rounds r x) (hy : Rounds s y) (h : r ≤ s) : x.rank ≤ y.rank := by
  obtain ⟨i, left, hi⟩ := hx
  obtain ⟨j, right, hj⟩ := hy
  have order := left.le right h
  omega

theorem Rounds.isNaN (h : Rounds r x) : x.isNaN = false := by
  obtain ⟨i, _, hi⟩ := h
  have large : 0 < infinityMagnitude := by decide
  refine isNaN_eq_false_iff.mpr ?_
  omega

end ScanFilter.Binary64
