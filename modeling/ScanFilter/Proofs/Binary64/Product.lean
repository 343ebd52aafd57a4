import ScanFilter.Proofs.Binary64.Numeral
import ScanFilter.Proofs.Binary64.Shortest
/-!
# Products of doubles

A product of finite doubles is the product of their numbers, rounded.  So where the product
is a double nothing is lost, and powers of ten up to the twenty-second are doubles: their
odd factor, the same power of five, fits into the bits of a double.

* `Rounds.eq` — a number and a sign are rounded to one double;
* `rounds_mul` — the product of finite doubles is what that of their numbers is rounded to;
* `tenfold_power` — small powers of ten are exact.
-/

namespace ScanFilter.Binary64

variable {r : ℚ} {i : ℤ} {m k j : ℕ} {x y : Binary64}

/-- A number is rounded to one double of each sign. -/
theorem Rounds.eq (hx : Rounds r x) (hy : Rounds r y) (sign : x.isNegative = y.isNegative) :
    x = y := by
  have rank : x.rank = y.rank := le_antisymm (hx.rank_le hy le_rfl) (hy.rank_le hx le_rfl)
  refine eq_of_parts sign ?_
  unfold Binary64.rank at rank
  rw [sign] at rank
  split at rank <;> omega

theorem isNegative_ofRatio (negative : Bool) (num den : ℕ) :
    (ofRatio negative num den).isNegative = negative :=
  isNegative_ofMagnitude negative (lt_of_le_of_lt (nearestMagnitude_le num den) (by decide))

theorem mul_of_isFinite (hx : x.isFinite = true) (hy : y.isFinite = true) :
    x.mul y = ofRatio (x.isNegative != y.isNegative) (x.ratio.1 * y.ratio.1)
      (x.ratio.2 * y.ratio.2) := by
  unfold mul
  rw [isNaN_of_isFinite hx, isNaN_of_isFinite hy, hx, hy]
  rfl

theorem value_eq_ratio (x : Binary64) :
    x.value = withSignOf x.isNegative (x.ratio.1 / x.ratio.2) := by
  rw [value, significand_mul, ratio_eq_point]

theorem ratio_pos (x : Binary64) : 0 < x.ratio.2 := by
  unfold ratio
  rw [Nat.one_shiftLeft]
  exact Nat.two_pow_pos _

/-- The product of finite doubles is what the product of their numbers is rounded to. -/
theorem rounds_mul (hx : x.isFinite = true) (hy : y.isFinite = true) :
    Rounds (x.value * y.value) (x.mul y) := by
  have product : x.value * y.value = withSignOf (x.isNegative != y.isNegative)
      ((x.ratio.1 * y.ratio.1 : ℕ) / (x.ratio.2 * y.ratio.2 : ℕ)) := by
    rw [value_eq_ratio, value_eq_ratio, Nat.cast_mul, Nat.cast_mul, mul_div_mul_comm]
    unfold withSignOf
    cases x.isNegative <;> cases y.isNegative <;> simp
  rw [product, mul_of_isFinite hx hy]
  exact rounds_ofRatio _ _ (Nat.mul_pos x.ratio_pos y.ratio_pos)

/-! ## Numbers that are doubles -/

/-- A number of a rank between the infinities is rounded to itself. -/
theorem Rounds.value_of_point (h : Rounds (point i) x) (low : -infinityMagnitude < i)
    (high : i < infinityMagnitude) : x.isFinite = true ∧ x.value = point i := by
  obtain ⟨j, cell, rank⟩ := h
  have same : j = i := cell.eq (inCell_point i)
  have here : x.rank = i := by omega
  rw [isFinite_iff, value_eq_point, here]
  exact ⟨⟨low, high⟩, rfl⟩

/-- A number up to `2 ^ 53`, times a small power of two, is rounded to itself. -/
theorem Rounds.value_of_mul (h : Rounds (m * 2 ^ k) x) (small : m ≤ 0x20000000000000)
    (bound : k ≤ 64) : x.isFinite = true ∧ x.value = m * 2 ^ k := by
  obtain ⟨i, here⟩ := exists_point_mul small k
  have low : 0 ≤ i := by
    rw [← point_le_point_iff, point_zero, here]
    positivity
  have high : i < infinityMagnitude := by
    by_contra past
    have above := point_le_point_iff.mpr (not_lt.mp past)
    rw [point_infinity, here] at above
    have below : (m : ℚ) * 2 ^ k ≤ 2 ^ 53 * 2 ^ 64 := by
      have first : (m : ℚ) ≤ 2 ^ 53 := by exact_mod_cast small
      have second : (2 : ℚ) ^ k ≤ 2 ^ 64 := pow_le_pow_right₀ (by norm_num) bound
      exact mul_le_mul first second (by positivity) (by positivity)
    have apart : (2 : ℚ) ^ 53 * 2 ^ 64 < 2 ^ (1024 : ℤ) := by
      rw [← pow_add, ← zpow_natCast]
      exact zpow_lt_zpow_right₀ (by norm_num) (by decide)
    exact absurd (above.trans below) apart.not_ge
  rw [← here] at h
  rw [← here]
  exact h.value_of_point (by rw [infinityMagnitude]; omega) high

/-! ## Powers of ten -/

/-- Whether a double is a power of ten. -/
structure Tenfold (k : ℕ) (x : Binary64) : Prop where
  finite : x.isFinite = true
  positive : x.isNegative = false
  number : x.value = 10 ^ k

/-- A power of ten up to the twenty-second is rounded to itself. -/
theorem Rounds.tenfold (h : Rounds (10 ^ k) x) (positive : x.isNegative = false)
    (bound : k ≤ 22) : Tenfold k x := by
  have odd : 5 ^ k ≤ 0x20000000000000 :=
    (Nat.pow_le_pow_right (by decide) bound).trans (by decide)
  have parts : (10 : ℚ) ^ k = (5 ^ k : ℕ) * 2 ^ k := by
    rw [Nat.cast_pow, ← mul_pow]
    norm_num
  rw [parts] at h
  obtain ⟨finite, value⟩ := h.value_of_mul odd (by omega)
  exact ⟨finite, positive, by rw [value, parts]⟩

theorem Tenfold.mul (hx : Tenfold j x) (hy : Tenfold k y) (bound : j + k ≤ 22) :
    Tenfold (j + k) (x.mul y) := by
  have product := rounds_mul hx.finite hy.finite
  rw [hx.number, hy.number, ← pow_add] at product
  refine product.tenfold ?_ bound
  rw [mul_of_isFinite hx.finite hy.finite, isNegative_ofRatio, hx.positive, hy.positive]
  rfl

/-- By induction on the bits that are left of an exponent: what is gathered and the base are
powers of ten, the base as long as a bit is left that it counts for. -/
theorem tenfold_powerFrom {acc base : Binary64} {n : ℕ} (ha : Tenfold j acc)
    (hb : n ≠ 0 → Tenfold k base) (bound : j + k * n ≤ 22) :
    Tenfold (j + k * n) (powerFrom acc base n) := by
  induction n using Nat.strongRecOn generalizing acc base j k with
  | ind n ih =>
      unfold powerFrom
      by_cases last : n = 0
      · rw [if_pos last, last, Nat.mul_zero, Nat.add_zero]
        exact ha
      · have base' := hb last
        have halves : n = n % 2 + 2 * (n / 2) := (Nat.mod_add_div n 2).symm
        have total : j + k * n = (j + k * (n % 2)) + (k + k) * (n / 2) := by
          conv => lhs; rw [halves]
          ring
        rw [if_neg last, total]
        rw [total] at bound
        refine ih (n / 2) (by omega) ?_ (fun more => base'.mul base' ?_) bound
        · split
          · next odd =>
              rw [odd, Nat.mul_one] at bound ⊢
              exact ha.mul base' (by omega)
          · next even =>
              have none : n % 2 = 0 := by omega
              rw [none, Nat.mul_zero, Nat.add_zero]
              exact ha
        · have least : k + k ≤ (k + k) * (n / 2) :=
            Nat.le_mul_of_pos_right _ (Nat.pos_of_ne_zero more)
          omega

/-- **Small powers of ten are exact.** -/
theorem tenfold_power (bound : k ≤ 22) : Tenfold k ((ofInt 10).power k) := by
  have one : Tenfold 0 (ofInt 1) := by
    refine Rounds.tenfold ?_ (isNegative_ofRatio ..) (by decide)
    have rounds := rounds_ofInt 1
    rwa [Int.cast_one, ← pow_zero (10 : ℚ)] at rounds
  have ten : Tenfold 1 (ofInt 10) := by
    refine Rounds.tenfold ?_ (isNegative_ofRatio ..) (by decide)
    have rounds := rounds_ofInt 10
    rwa [Int.cast_ofNat, ← pow_one (10 : ℚ)] at rounds
  have power := tenfold_powerFrom one (fun _ => ten) (n := k) (by omega)
  rwa [Nat.zero_add, Nat.one_mul] at power

end ScanFilter.Binary64
