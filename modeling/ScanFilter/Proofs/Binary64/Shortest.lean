import ScanFilter.Decimal.Nearest
import ScanFilter.Proofs.Binary64.Numeral
import ScanFilter.Proofs.Decimal.Number
/-!
# The shortest decimal of a double

The shortest decimal of a finite double is in the cell of its rank, so it is rounded to
the double.  It need not be the number of the double; but cells are in the order of their
ranks, and so the shortest decimals of doubles are in the order of the doubles.  Of a
double that is an integer up to `2 ^ 53` the shortest decimal is that integer: any other
integer is in another cell, and the search reaches the integers before it looks behind the
point.

* `readsBack_iff` — the decimals that are read back as a double are those in its cell;
* `inCell_shown` — the shortest decimal of a double is in its cell;
* `compare_eq_compare_shown` — shortest decimals are in the order of their doubles;
* `shown_eq_of_value` — the shortest decimal of a small integer;
* `ofBinary64?_of_isFinite` — the decimal of a double has the number of its shortest numeral.
-/

namespace ScanFilter.Binary64

variable {x y : Binary64} {n : Numeral} {i : ℤ} {r : ℚ}

/-! ## Reading back -/

/-- A number that is not negative is in no cell of a negative rank. -/
theorem InCell.nonneg (h : InCell i r) (nonneg : 0 ≤ r) : 0 ≤ i := by
  have zero := inCell_point 0
  rw [point_zero] at zero
  exact zero.le h nonneg

/-- A decimal is read back as a finite double just if it is in the cell of its
magnitude. -/
theorem readsBack_iff (finite : x.isFinite = true) :
    x.readsBack n = true ↔ InCell x.magnitude n.value := by
  have small : x.magnitude < infinityMagnitude := of_decide_eq_true finite
  obtain ⟨i, cell, rank⟩ := rounds_ofNumeral false n
  rw [withSignOf, if_neg Bool.false_ne_true] at cell
  have nonneg := cell.nonneg n.value_nonneg
  have magnitude : ((ofNumeral false n).magnitude : ℤ) = min i infinityMagnitude := by
    unfold Binary64.rank at rank
    split at rank <;> omega
  rw [readsBack, beq_iff_eq]
  constructor
  · intro same
    obtain rfl : i = x.magnitude := by omega
    exact cell
  · intro here
    have same := cell.eq here
    omega

/-- Every digit of a double makes its number. -/
theorem value_exactNumeral (x : Binary64) : x.exactNumeral.value = point x.magnitude := by
  rw [← significand_mul]
  unfold exactNumeral Numeral.value
  by_cases whole : 0 ≤ x.exponent
  · have exponent : (x.exponent.toNat : ℤ) = x.exponent := Int.toNat_of_nonneg whole
    rw [if_pos whole, zpow_zero, mul_one, Nat.shiftLeft_eq, Nat.cast_mul, Nat.cast_pow,
      Nat.cast_ofNat, ← zpow_natCast, exponent]
  · have exponent : ((-x.exponent).toNat : ℤ) = -x.exponent := Int.toNat_of_nonneg (by omega)
    have five : ((Nat.pow 5 (-x.exponent).toNat : ℕ) : ℚ) = 5 ^ (-x.exponent) := by
      rw [← exponent, zpow_natCast]
      exact Nat.cast_pow 5 _
    have ten : (10 : ℚ) ^ x.exponent = 5 ^ x.exponent * 2 ^ x.exponent := by
      rw [← mul_zpow]
      norm_num
    rw [if_neg whole, Nat.cast_mul, five, ten, mul_assoc, ← mul_assoc (5 ^ _),
      ← zpow_add₀ (by norm_num), neg_add_cancel, zpow_zero, one_mul]

/-- The shortest decimal of a finite double is in the cell of its magnitude. -/
theorem inCell_shortest (finite : x.isFinite = true) :
    InCell x.magnitude x.shortest.value := by
  unfold shortest
  by_cases zero : x.magnitude = 0
  · have here := inCell_point 0
    rw [point_zero] at here
    rw [if_pos zero, zero]
    simpa [Numeral.value] using here
  · have exact : x.readsBack x.exactNumeral = true := by
      rw [readsBack_iff finite, value_exactNumeral]
      exact inCell_point x.magnitude
    rw [if_neg zero, Numeral.value_trim]
    exact (readsBack_iff finite).mp (readsBack_candidate exact)

/-! ## Order -/

/-- The number that the text of a finite double shows. -/
def shown (x : Binary64) : ℚ := withSignOf x.isNegative x.shortest.value

/-- The number that is shown of a finite double is in its cell. -/
theorem inCell_shown (finite : x.isFinite = true) : InCell x.rank x.shown := by
  have cell := inCell_shortest finite
  unfold rank shown withSignOf
  split
  · exact cell.neg
  · exact cell

/-- A double is made of its sign and its magnitude. -/
theorem eq_of_parts (sign : x.isNegative = y.isNegative) (same : x.magnitude = y.magnitude) :
    x = y := by
  have small := x.bits.toNat_lt
  have small' := y.bits.toNat_lt
  unfold isNegative at sign
  unfold magnitude at same
  rw [decide_eq_decide] at sign
  have words : x.bits.toNat = y.bits.toNat := by omega
  exact congrArg mk (UInt64.toNat_inj.mp words)

/-- Doubles of one rank show one number. -/
theorem shown_eq_of_rank (same : x.rank = y.rank) : x.shown = y.shown := by
  by_cases zero : x.magnitude = 0
  -- The two zeros differ in their signs, and both show zero.
  · have zero' : y.magnitude = 0 := by
      unfold rank at same
      split at same <;> split at same <;> omega
    have shows {z : Binary64} (h : z.magnitude = 0) : z.shown = 0 := by
      rw [shown, shortest, if_pos h, Numeral.value, Nat.cast_zero, zero_mul, withSignOf,
        neg_zero, ite_self]
    rw [shows zero, shows zero']
  · have parts : x.isNegative = y.isNegative ∧ x.magnitude = y.magnitude := by
      unfold rank at same
      split at same <;> split at same <;> simp_all
    rw [eq_of_parts parts.1 parts.2]

/-- Finite doubles compare as what is shown of them. -/
theorem compare_eq_compare_shown (hx : x.isFinite = true) (hy : y.isFinite = true) :
    x.compare y = some (Ord.compare x.shown y.shown) := by
  have less {x y : Binary64} (hx : x.isFinite = true) (hy : y.isFinite = true)
      (h : x.rank < y.rank) : x.shown < y.shown := by
    by_contra notLess
    exact absurd ((inCell_shown hy).le (inCell_shown hx) (not_lt.mp notLess)) h.not_ge
  rw [compare, isNaN_of_isFinite hx, isNaN_of_isFinite hy]
  exact congrArg some (compare_congr (less hx hy) shown_eq_of_rank (less hy hx)).symm

/-! ## Integers -/

/-- A natural number in the cell of one up to `2 ^ 53` is this one, or the odd number behind
the last of them. -/
theorem InCell.eq_of_natCast {n k : ℕ} (h : InCell i k) (here : point i = n)
    (small : n ≤ 0x20000000000000) : k = n ∨ k = 0x20000000000001 := by
  by_cases inside : k ≤ 0x20000000000000
  · obtain ⟨j, there⟩ := exists_point (n := k) inside
    rw [Int.cast_natCast] at there
    rw [← there] at h
    have same : (k : ℚ) = n := by rw [← there, ← here, h.eq (inCell_point j)]
    exact .inl (Nat.cast_inj.mp same)
  · -- Past the last integer of unit distance the cell of this one reaches half way to the
    -- next double, which is two behind it.
    have last := point_grid (q := 0) (s := 0x20000000000000) (by decide) (by decide) le_rfl
    have next := point_grid (q := 1) (s := 0x10000000000001) (by decide) (by decide) (by decide)
    norm_num at last next
    have low : 0x4340000000000000 ≤ i := by
      refine (inCell_point _).le h ?_
      rw [last]
      exact_mod_cast (not_le.mp inside).le
    have high : i ≤ 0x4340000000000000 := by
      rw [← point_le_point_iff, here, last]
      exact_mod_cast small
    have edge := h.high
    rw [show i = 0x4340000000000000 by omega, middle] at edge
    norm_num [last, next] at edge
    have bound : k ≤ 0x20000000000001 := by exact_mod_cast edge
    omega

/-- The candidate of a grid stands on it. -/
theorem exponent_of_onGrid? {e : ℤ} (h : x.onGrid? e = some n) : n.exponent = e := by
  unfold onGrid? at h
  simp only at h
  split at h
  · cases h
    rfl
  · split at h
    · cases h
      rfl
    · cases h

section Integral

variable {n : ℕ} (finite : x.isFinite = true) (here : point x.magnitude = n)

include here

/-- The numerator of a double that is an integer is a multiple of its denominator. -/
theorem ratio_of_integer : x.ratio.1 = n * x.ratio.2 ∧ 0 < x.ratio.2 := by
  have positive : 0 < x.ratio.2 := by
    simp only [ratio, Nat.shiftLeft_eq]
    positivity
  have quotient := ratio_eq_point x
  rw [here, div_eq_iff (Nat.cast_pos.mpr positive).ne'] at quotient
  exact ⟨by exact_mod_cast quotient, positive⟩

theorem decimalPlace_of_integer (nonzero : n ≠ 0) :
    decimalPlace x.ratio.1 x.ratio.2 = Numeral.digitCount n := by
  obtain ⟨multiple, positive⟩ := ratio_of_integer here
  unfold decimalPlace
  rw [multiple, if_pos (Nat.le_mul_of_pos_left _ (Nat.pos_of_ne_zero nonzero)),
    Nat.mul_div_cancel n positive]

include finite

/-- Among the integers the candidate is the double itself. -/
theorem onGrid?_zero : x.onGrid? 0 = some ⟨n, 0⟩ := by
  obtain ⟨multiple, positive⟩ := ratio_of_integer here
  have back : x.readsBack ⟨n, 0⟩ = true := by
    rw [readsBack_iff finite, Numeral.value, zpow_zero, mul_one, ← here]
    exact inCell_point x.magnitude
  unfold onGrid?
  simp [multiple, positive, back]

/-- The candidates of more coarse grids are no other integers. -/
theorem value_of_onGrid? (small : n ≤ 0x20000000000000) {e : ℤ} (coarse : 0 < e) {c : Numeral}
    (h : x.onGrid? e = some c) : c.value = n := by
  have cell := (readsBack_iff finite).mp (readsBack_of_onGrid? h)
  have exponent := exponent_of_onGrid? h
  have integer : c.value = ((c.coefficient * 10 ^ e.toNat : ℕ) : ℚ) := by
    have natural : (e.toNat : ℤ) = e := Int.toNat_of_nonneg coarse.le
    rw [Numeral.value, exponent, Nat.cast_mul, Nat.cast_pow, Nat.cast_ofNat, ← zpow_natCast,
      natural]
  rw [integer] at cell ⊢
  rcases cell.eq_of_natCast here small with same | odd
  · rw [same]
  · have even : 2 ∣ c.coefficient * 10 ^ e.toNat :=
      Dvd.dvd.mul_left (dvd_pow (by decide) (by omega)) _
    omega

/-- The candidate for a double that is an integer up to `2 ^ 53` is the integer. -/
theorem value_candidate (nonzero : n ≠ 0) (small : n ≤ 0x20000000000000) :
    x.candidate.value = n := by
  have count : Numeral.digitCount n ≤ 16 :=
    Numeral.digitCount_le (by decide) (lt_of_le_of_lt small (by decide))
  have positive := Numeral.digitCount_pos n
  -- The search comes to the integers after as many grids as there are digits.
  have reached : x.onGrid? (Numeral.digitCount n - 1 - (Numeral.digitCount n - 1 : ℕ))
      = some ⟨n, 0⟩ := by
    rw [Nat.cast_sub positive, Nat.cast_one, sub_self]
    exact onGrid?_zero finite here
  have split : List.range 17 = List.range (Numeral.digitCount n)
      ++ (List.range (17 - Numeral.digitCount n)).map (Numeral.digitCount n + ·) := by
    rw [← List.range_add, Nat.add_sub_cancel' (by omega)]
  unfold candidate
  rw [decimalPlace_of_integer here nonzero]
  simp only
  rw [split, List.findSome?_append]
  cases search : (List.range (Numeral.digitCount n)).findSome? fun (i : Nat) =>
      x.onGrid? (Numeral.digitCount n - 1 - i) with
  | none =>
      have missed := List.findSome?_eq_none_iff.mp search (Numeral.digitCount n - 1)
        (List.mem_range.mpr (by omega))
      rw [reached] at missed
      cases missed
  | some c =>
      obtain ⟨i, inside, found⟩ := List.exists_of_findSome?_eq_some search
      have bound := List.mem_range.mp inside
      change c.value = n
      by_cases last : i = Numeral.digitCount n - 1
      · rw [last, reached] at found
        cases found
        rw [Numeral.value, zpow_zero, mul_one]
      · exact value_of_onGrid? finite here small (by omega) found

/-- The shortest decimal of a double that is an integer up to `2 ^ 53` is the integer. -/
theorem value_shortest (small : n ≤ 0x20000000000000) : x.shortest.value = n := by
  unfold shortest
  by_cases zero : x.magnitude = 0
  · rw [zero, Nat.cast_zero, point_zero] at here
    rw [if_pos zero, Numeral.value, Nat.cast_zero, zero_mul, here]
  · have nonzero : n ≠ 0 := by
      rintro rfl
      rw [Nat.cast_zero, ← point_zero] at here
      exact zero (Int.natCast_eq_zero.mp (point_injective here))
    rw [if_neg zero, Numeral.value_trim]
    exact value_candidate finite here nonzero small

end Integral

/-- What is shown of a double that is an integer up to `2 ^ 53` is the integer. -/
theorem shown_eq_of_value {z : ℤ} (finite : x.isFinite = true) (here : x.value = z)
    (small : z.natAbs ≤ 0x20000000000000) : x.shown = z := by
  have nonneg : 0 ≤ point x.magnitude := by
    rw [point_natCast]
    positivity
  rw [value, significand_mul] at here
  have size : point x.magnitude = z.natAbs := by
    rw [Nat.cast_natAbs, Int.cast_abs, ← here, withSignOf]
    split
    · rw [abs_neg, abs_of_nonneg nonneg]
    · rw [abs_of_nonneg nonneg]
  rw [shown, value_shortest finite size small, ← size, here]

/-! ## As a decimal -/

/-- No exponent is below that of the least positive double. -/
theorem le_exponent (x : Binary64) : -1074 ≤ x.exponent := by
  unfold exponent
  split <;> omega

/-- No double other than zero begins far behind the point. -/
theorem le_decimalPlace (x : Binary64) : -1074 ≤ decimalPlace x.ratio.1 x.ratio.2 := by
  have least := x.le_exponent
  unfold decimalPlace
  split
  · omega
  · have small : (x.ratio.2 - 1) / x.ratio.1 < Nat.pow 10 ((-x.exponent).toNat + 1) :=
      calc (x.ratio.2 - 1) / x.ratio.1
          ≤ x.ratio.2 - 1 := Nat.div_le_self ..
        _ ≤ 2 ^ (-x.exponent).toNat := by
            simp only [ratio, Nat.shiftLeft_eq, one_mul]
            exact Nat.sub_le ..
        _ ≤ 10 ^ (-x.exponent).toNat := Nat.pow_le_pow_left (by decide) _
        _ < 10 ^ ((-x.exponent).toNat + 1) := Nat.pow_lt_pow_succ (by decide)
    have count := Numeral.digitCount_le (Nat.succ_pos _) small
    omega

theorem exponent_le_trim (n : Numeral) : n.exponent ≤ n.trim.exponent := by
  fun_induction Numeral.trim n with
  | case1 n ends ih => exact (Int.le_add_one le_rfl).trans ih
  | case2 n ends => exact le_rfl

/-- No shortest decimal has an exponent so small that a scale could not hold it. -/
theorem le_exponent_shortest (x : Binary64) : -1100 ≤ x.shortest.exponent := by
  have least := x.le_exponent
  have place := x.le_decimalPlace
  have candidate : -1100 ≤ x.candidate.exponent := by
    unfold candidate
    simp only
    cases search : (List.range 17).findSome? fun (i : Nat) =>
        x.onGrid? (decimalPlace x.ratio.1 x.ratio.2 - 1 - i) with
    | none =>
        change -1100 ≤ x.exactNumeral.exponent
        unfold exactNumeral
        split <;> simp only <;> omega
    | some c =>
        obtain ⟨i, inside, found⟩ := List.exists_of_findSome?_eq_some search
        have bound := List.mem_range.mp inside
        change -1100 ≤ c.exponent
        rw [exponent_of_onGrid? found]
        omega
  unfold shortest
  split
  · decide
  · exact candidate.trans (exponent_le_trim _)

end ScanFilter.Binary64

namespace ScanFilter.Decimal

open Binary64 (withSignOf)

/-- The decimal of a numeral has its number, if the exponent goes into a scale. -/
theorem value_ofNumeral (negative : Bool) {n : Numeral}
    (range : -0x8000000000000000 < n.exponent) :
    (ofNumeral negative n).value = withSignOf negative n.value := by
  have scale : (Int64.ofNat (-n.exponent).toNat).toInt = (-n.exponent).toNat :=
    Int64.toInt_ofNat_of_lt (by omega)
  have size : ((n.coefficient * Nat.pow 10 n.exponent.toNat : ℕ) : ℚ)
      * 10 ^ (-((-n.exponent).toNat : ℤ)) = n.value := by
    rw [n.value_eq_div, Numeral.cast_pow_ten (-n.exponent).toNat, zpow_neg, div_eq_mul_inv]
  rw [value, ofNumeral, scale, ← size]
  cases negative with
  | false => rfl
  | true => simp [Numeral.signed, withSignOf]

/-- A finite double has a decimal, the number of which is what the double shows. -/
theorem ofBinary64?_of_isFinite {x : Binary64} (finite : x.isFinite = true) :
    ∃ d, ofBinary64? x = some d ∧ d.value = x.shown :=
  ⟨_, if_pos finite, value_ofNumeral _ (lt_of_lt_of_le (by decide) x.le_exponent_shortest)⟩

end ScanFilter.Decimal
