import ScanFilter.Decimal.Nearest
import ScanFilter.Proofs.Binary64.Leading
import ScanFilter.Proofs.Binary64.Product
import ScanFilter.Proofs.Binary64.Text
import ScanFilter.Proofs.Decimal.Number
/-!
# The nearest double of a decimal

The text of a decimal is read as the double nearest to its number, whichever of its forms
the text has and whatever the scale.  Without the text a decimal becomes a double in steps,
and not every step is exact.

* `ofText?_text` — the text of a decimal is read as its nearest double;
* `rounds_of_behind` — how little the steps lose of a decimal with places behind the point;
* `toBinary64_of_direct` — where the steps end up at the nearest double;
* `toBinary64_of_far` — what becomes of a scale that needs more than 32 bits.
-/

namespace ScanFilter

namespace Numeral

variable {front rest : List Char} {mark : Char} {e : ℤ}

/-- An integer behind its letter is an exponent. -/
theorem exponentOfText?_marked (letter : mark = 'e' ∨ mark = 'E')
    (spells : Spells rest e) : exponentOfText? (mark :: rest) = some e :=
  (if_pos letter).trans (readInteger?_eq_some_iff.mpr spells)

/-- The first digit of a number is a row of digits. -/
theorem first_digits (n : ℕ) : (digits n).take 1 ≠ [] ∧ AllDigits ((digits n).take 1) := by
  refine ⟨?_, (allDigits_digits n).subset (List.take_subset 1 _)⟩
  rw [Ne, List.take_eq_nil_iff]
  simp [digits_ne_nil]

/-- Scientific notation is read as the numeral that it is of. -/
theorem ofText?_scientific (n : Numeral) (letter : mark = 'e' ∨ mark = 'E') :
    ofText? (n.scientific mark) = some n := by
  obtain ⟨nonempty, first⟩ := first_digits n.coefficient
  have others : AllDigits ((digits n.coefficient).drop 1) :=
    (allDigits_digits n.coefficient).subset (List.drop_subset 1 _)
  have parts : natural ((digits n.coefficient).take 1 ++ (digits n.coefficient).drop 1)
      = n.coefficient := by
    rw [List.take_append_drop, natural_digits]
  have exponent := exponentOfText?_marked letter
    (spells_integer (n.exponent + ((digits n.coefficient).drop 1).length))
  unfold scientific
  simp only
  split
  · next single =>
      rw [single, List.append_nil] at parts
      rw [single, List.length_nil, Nat.cast_zero, add_zero] at exponent ⊢
      rw [List.append_nil, ofText?_whole first nonempty exponent, parts]
  · rw [List.append_assoc, List.cons_append, ofText?_point nonempty first others exponent, parts,
      add_sub_cancel_right]

/-- An integer with an exponent is read as the numeral that it is of. -/
theorem ofText?_withExponent (n : Numeral) (whole : 0 ≤ n.exponent) :
    ofText? (Decimal.withExponent n) = some n := by
  have plain : integer n.exponent = digits n.exponent.natAbs := if_neg (not_lt.mpr whole)
  have spells : Spells ('+' :: integer n.exponent) n.exponent := by
    refine ⟨['+'], 1, digits n.exponent.natAbs, ?_, .plus, digits_ne_nil _,
      allDigits_digits _, ?_⟩
    · rw [plain]
      rfl
    · rw [natural_digits, one_mul, Int.natAbs_of_nonneg whole]
  rw [Decimal.withExponent, ofText?_whole (allDigits_digits _) (digits_ne_nil _)
    (exponentOfText?_marked (.inl rfl) spells), natural_digits]

/-- What begins with digits begins with a digit. -/
theorem exists_cons_of_digits (nonempty : front ≠ []) (all : AllDigits front)
    (rest : List Char) : ∃ c cs, front ++ rest = c :: cs ∧ c.isDigit = true := by
  obtain ⟨c, cs, rfl⟩ := List.exists_cons_of_ne_nil nonempty
  exact ⟨c, cs ++ rest, rfl, all c List.mem_cons_self⟩

/-- Scientific notation begins with a digit. -/
theorem exists_cons_scientific (n : Numeral) (mark : Char) :
    ∃ c cs, n.scientific mark = c :: cs ∧ c.isDigit = true := by
  obtain ⟨nonempty, first⟩ := first_digits n.coefficient
  unfold scientific
  simp only [List.append_assoc]
  exact exists_cons_of_digits nonempty first _

end Numeral

namespace Binary64

theorem isNegative_ofNumeral (negative : Bool) (n : Numeral) :
    (ofNumeral negative n).isNegative = negative := by
  obtain ⟨m, small, made⟩ := exists_ofNumeral n
  rw [made, isNegative_ofMagnitude negative small]

/-- Numerals of one number have one double. -/
theorem ofNumeral_congr (negative : Bool) {m n : Numeral} (same : m.value = n.value) :
    ofNumeral negative m = ofNumeral negative n := by
  have rounds := rounds_ofNumeral negative m
  rw [same] at rounds
  refine rounds.eq (rounds_ofNumeral negative n) ?_
  rw [isNegative_ofNumeral, isNegative_ofNumeral]

end Binary64

namespace Decimal

open Binary64 (Rounds rounds_ofNumeral withSignOf)
open Numeral (digitCount splitSign)

variable {d : Decimal}

/-- The numeral of the absolute value of a decimal. -/
def absolute (d : Decimal) : Numeral := ⟨d.unscaled.natAbs, -d.scale.toInt⟩

/-- The double nearest to a decimal. -/
def nearest (d : Decimal) : Binary64 := .ofNumeral (decide (d.unscaled < 0)) d.absolute

theorem value_eq_absolute (d : Decimal) :
    d.value = withSignOf (decide (d.unscaled < 0)) d.absolute.value := by
  unfold withSignOf
  by_cases negative : d.unscaled < 0
  · rw [if_pos (decide_eq_true negative), value_of_neg negative]
    rfl
  · rw [if_neg (by simpa using negative), value_of_nonneg (not_lt.mp negative)]
    rfl

/-- The nearest double is what the number of a decimal is rounded to. -/
theorem rounds_nearest (d : Decimal) : Rounds d.value d.nearest := by
  rw [value_eq_absolute]
  exact rounds_ofNumeral _ _

/-! ## The text -/

/-- Whichever form a numeral is written in, it begins with a digit and is read as a numeral
of the same number. -/
theorem exists_read (n : Numeral) :
    ∃ c cs m, (if n.place < -5 then n.scientific 'E'
        else if 15 < n.exponent then withExponent n else n.positional) = c :: cs ∧
      c.isDigit = true ∧ Numeral.ofText? (c :: cs) = some m ∧ m.value = n.value := by
  split
  · obtain ⟨c, cs, shape, digit⟩ := n.exists_cons_scientific 'E'
    exact ⟨c, cs, n, shape, digit, shape ▸ n.ofText?_scientific (.inr rfl), rfl⟩
  · split
    · next large =>
        obtain ⟨c, cs, shape, digit⟩ : ∃ c cs, withExponent n = c :: cs ∧ c.isDigit = true :=
          Numeral.exists_cons_of_digits (Numeral.digits_ne_nil _)
            (Numeral.allDigits_digits _) _
        exact ⟨c, cs, n, shape, digit, shape ▸ n.ofText?_withExponent (by omega), rfl⟩
    · obtain ⟨c, cs, shape, digit⟩ := n.exists_cons_positional
      obtain ⟨m, read, same⟩ := n.ofText?_positional
      exact ⟨c, cs, m, shape, digit, shape ▸ read, same⟩

/-- **The text of a decimal is read as its nearest double**, whatever its scale. -/
theorem ofText?_text (d : Decimal) : Binary64.ofText? d.text = some d.nearest := by
  obtain ⟨c, cs, m, shape, digit, read, same⟩ :=
    exists_read ⟨d.unscaled.natAbs, if d.unscaled = 0 then 0 else -d.scale.toInt⟩
  have value : m.value = d.absolute.value := by
    rw [same, Numeral.value, Numeral.value, absolute]
    by_cases zero : d.unscaled = 0
    · simp [zero]
    · rw [if_neg zero]
  have split : splitSign (minusSign (decide (d.unscaled < 0)) ++ c :: cs)
      = (decide (d.unscaled < 0), c :: cs) := by
    cases decide (d.unscaled < 0) with
    | true => rfl
    | false => exact Numeral.splitSign_of_digit digit cs
  rw [text_eq]
  simp only [shape]
  rw [Binary64.ofText?_of_digit digit split, read, Option.map_some,
    Binary64.ofNumeral_congr _ value]
  rfl

/-! ## The steps -/

/-- The unit of what is cut from the integer of a decimal. -/
def cutUnit (d : Decimal) : ℕ := Nat.pow 10 (19 * surplusBlocks d.unscaled.natAbs)

/-- The scale of a decimal after the surplus of its integer is cut. -/
def cutScale (d : Decimal) : ℤ := d.scale.toInt - 19 * surplusBlocks d.unscaled.natAbs

/-- What stays of the absolute value of a decimal after the surplus is cut. -/
def cut (d : Decimal) : Numeral := ⟨d.unscaled.natAbs / d.cutUnit, -d.cutScale⟩

/-- If something is cut from an integer, twenty-five digits stay, and forty-four at most. -/
theorem digitCount_surplus {n : ℕ} (nonzero : n ≠ 0) :
    (surplusBlocks n = 0 ∨ 19 * surplusBlocks n + 25 ≤ digitCount n) ∧
    digitCount n < 19 * surplusBlocks n + 45 := by
  have unfolded : surplusBlocks n = (digitCount (1 <<< (n.log2 + 2)) - 1 - 25) / 19 := by
    unfold surplusBlocks
    rw [if_neg nonzero]
  -- The count of digits is estimated by a power of two that is at most four times as large.
  generalize count : digitCount (1 <<< (n.log2 + 2)) = estimate at unfolded
  have above : n < 1 <<< (n.log2 + 2) := by
    rw [Nat.one_shiftLeft]
    exact Nat.lt_log2_self.trans (Nat.pow_lt_pow_right (by decide) (by omega))
  have below : 1 <<< (n.log2 + 2) ≤ n * 4 := by
    rw [Nat.one_shiftLeft, Nat.pow_add]
    exact Nat.mul_le_mul_right _ (Nat.log2_self_le nonzero)
  have upper : digitCount n ≤ estimate := by
    refine Numeral.digitCount_le (count ▸ Numeral.digitCount_pos _) (above.trans ?_)
    rw [← count]
    exact Numeral.lt_pow_digitCount _
  have lower : estimate ≤ digitCount n + 1 := by
    rw [← count]
    refine Numeral.digitCount_le (Nat.succ_pos _) ?_
    calc 1 <<< (n.log2 + 2) ≤ n * 4 := below
      _ < Nat.pow 10 (digitCount n) * 10 := by
          have digits := Numeral.lt_pow_digitCount n
          omega
  omega

theorem cutUnit_pos (d : Decimal) : 0 < d.cutUnit := Nat.pow_pos (by decide)

/-- What stays is the absolute value but for the rest that is cut. -/
theorem value_cut (d : Decimal) :
    d.cut.value = d.absolute.value
      - (d.unscaled.natAbs % d.cutUnit : ℕ) * 10 ^ (-d.scale.toInt) := by
  have parts : (d.unscaled.natAbs : ℚ)
      = (d.unscaled.natAbs / d.cutUnit : ℕ) * d.cutUnit
        + (d.unscaled.natAbs % d.cutUnit : ℕ) := by
    exact_mod_cast (Nat.div_add_mod' d.unscaled.natAbs d.cutUnit).symm
  have unit : (d.cutUnit : ℚ) = 10 ^ ((19 * surplusBlocks d.unscaled.natAbs : ℕ) : ℤ) :=
    Numeral.cast_pow_ten _
  have exponent : -d.cutScale
      = ((19 * surplusBlocks d.unscaled.natAbs : ℕ) : ℤ) + -d.scale.toInt := by
    unfold cutScale
    omega
  rw [Numeral.value, Numeral.value, cut, absolute, exponent, zpow_add₀ (by norm_num), ← unit]
  simp only
  rw [parts]
  ring

/-- The rest that is cut is less than a `10 ^ 24`-th of the whole. -/
theorem rest_le (d : Decimal) :
    d.unscaled.natAbs % d.cutUnit * 10 ^ 24 ≤ d.unscaled.natAbs := by
  by_cases zero : d.unscaled.natAbs = 0
  · rw [zero, Nat.zero_mod, Nat.zero_mul]
  · rcases (digitCount_surplus zero).1 with uncut | long
    · have unit : d.cutUnit = 1 := by
        unfold cutUnit
        rw [uncut]
      rw [unit, Nat.mod_one, Nat.zero_mul]
      exact Nat.zero_le _
    · calc d.unscaled.natAbs % d.cutUnit * 10 ^ 24
          ≤ d.cutUnit * 10 ^ 24 := Nat.mul_le_mul_right _ (Nat.mod_lt _ d.cutUnit_pos).le
        _ = 10 ^ (19 * surplusBlocks d.unscaled.natAbs + 24) := (pow_add 10 _ 24).symm
        _ ≤ 10 ^ (digitCount d.unscaled.natAbs - 1) :=
            Nat.pow_le_pow_right (by decide) (by omega)
        _ ≤ d.unscaled.natAbs := Numeral.pow_le_of_digitCount zero

theorem scale_ne_zero (h : d.scale.toInt ≠ 0) : d.scale ≠ 0 := by
  intro none
  have scale : (0 : Int64).toInt = 0 := by decide
  rw [none, scale] at h
  exact h rfl

/-- The steps to the double of a decimal that is neither zero nor an integer of scale
zero. -/
theorem toBinary64_of_scale (nonzero : d.unscaled ≠ 0) (scaled : d.scale.toInt ≠ 0) :
    let negative := decide (d.unscaled < 0)
    d.toBinary64
      = if d.cutScale ≤ -0x80000000 ∨ 0x80000000 ≤ d.cutScale then .infinity negative
        else if 0 < d.cutScale then .ofNumeral negative d.cut
        else (Binary64.ofLeading negative d.cut.coefficient).mul
          ((Binary64.ofInt 10).power (-d.cutScale).toNat) := by
  intro negative
  unfold toBinary64
  rw [if_neg nonzero, if_neg (scale_ne_zero scaled)]
  rfl

theorem toBinary64_of_behind (nonzero : d.unscaled ≠ 0) (behind : 0 < d.cutScale)
    (narrow : d.cutScale < 0x80000000) :
    d.toBinary64 = .ofNumeral (decide (d.unscaled < 0)) d.cut := by
  have scaled : d.scale.toInt ≠ 0 := by
    unfold cutScale at behind
    omega
  rw [toBinary64_of_scale nonzero scaled, if_neg (by omega), if_pos behind]

/-- **Places behind the point.**  What is cut from a decimal with places behind the point is
less than a `10 ^ 24`-th of its number, and the rest is rounded once. -/
theorem rounds_of_behind (nonzero : d.unscaled ≠ 0) (behind : 0 < d.cutScale)
    (narrow : d.cutScale < 0x80000000) :
    ∃ r, Rounds r d.toBinary64 ∧ |d.value - r| * 10 ^ 24 ≤ |d.value| := by
  refine ⟨withSignOf (decide (d.unscaled < 0)) d.cut.value, ?_, ?_⟩
  · rw [toBinary64_of_behind nonzero behind narrow]
    exact rounds_ofNumeral _ _
  · have rest : d.absolute.value - d.cut.value
        = (d.unscaled.natAbs % d.cutUnit : ℕ) * 10 ^ (-d.scale.toInt) := by
      rw [value_cut, sub_sub_cancel]
    have small : ((d.unscaled.natAbs % d.cutUnit : ℕ) : ℚ) * 10 ^ 24 ≤ d.unscaled.natAbs := by
      exact_mod_cast d.rest_le
    have apart : |d.value - withSignOf (decide (d.unscaled < 0)) d.cut.value|
        = |d.absolute.value - d.cut.value| := by
      rw [value_eq_absolute]
      unfold withSignOf
      split
      · rw [neg_sub_neg, abs_sub_comm]
      · rfl
    have whole : |d.value| = |d.absolute.value| := by
      rw [value_eq_absolute]
      unfold withSignOf
      split
      · rw [abs_neg]
      · rfl
    have unit := Numeral.ten_zpow_pos (-d.scale.toInt)
    rw [apart, whole, rest, abs_of_nonneg (by positivity), abs_of_nonneg d.absolute.value_nonneg,
      mul_right_comm]
    exact mul_le_mul_of_nonneg_right small unit.le

/-! ## Direct decimals -/

/-- Decimals that become doubles by one rounding: nothing but the last step is inexact. -/
inductive Direct (d : Decimal) : Prop
  | zero (h : d.unscaled = 0)
  /-- An integer, if it is found whether anything lies below its leading bits. -/
  | integer (whole : d.scale = 0) (found : Binary64.FindsResidue d.unscaled.natAbs)
  /-- Places behind the point, and nothing but zeros is cut. -/
  | fraction (zeros : d.cutUnit ∣ d.unscaled.natAbs) (behind : 0 < d.cutScale)
    (narrow : d.cutScale < 0x80000000)
  /-- An integer that is a double, times a power of ten that is one. -/
  | product (small : d.unscaled.natAbs ≤ 0x20000000000000) (front : d.scale.toInt < 0)
    (near : -22 ≤ d.scale.toInt)
  /-- An overflow. -/
  | overflow (scaled : d.scale.toInt ≠ 0) (far : d.cutScale ≤ -0x80000000)

theorem nearest_of_zero (zero : d.unscaled = 0) : d.nearest = .zero false := by
  unfold nearest Binary64.ofNumeral absolute
  rw [zero]
  exact if_pos (.inl rfl)

theorem nearest_of_large (nonzero : d.unscaled ≠ 0) (large : 310 < d.absolute.place) :
    d.nearest = .infinity (decide (d.unscaled < 0)) := by
  have inside : ¬ (d.absolute.coefficient = 0 ∨ d.absolute.place < -330) := by
    rintro (zero | small)
    · exact nonzero (Int.natAbs_eq_zero.mp zero)
    · omega
  unfold nearest Binary64.ofNumeral
  rw [if_neg inside, if_pos large]

theorem nearest_of_small (small : d.absolute.place < -330) :
    d.nearest = .zero (decide (d.unscaled < 0)) :=
  if_pos (.inr small)

/-- A double of the same sign that the number is rounded to is the nearest one. -/
theorem eq_nearest {x : Binary64} (rounds : Rounds d.value x)
    (sign : x.isNegative = decide (d.unscaled < 0)) : x = d.nearest :=
  rounds.eq d.rounds_nearest (sign.trans (Binary64.isNegative_ofNumeral ..).symm)

theorem toBinary64_of_integer (nonzero : d.unscaled ≠ 0) (whole : d.scale = 0)
    (found : Binary64.FindsResidue d.unscaled.natAbs) : d.toBinary64 = d.nearest := by
  have made : d.toBinary64 = .ofInt d.unscaled := by
    unfold toBinary64
    rw [if_neg nonzero, if_pos whole, Binary64.ofLeading_of_findsResidue _ found]
    rfl
  have number : d.value = d.unscaled := by
    have same : d = ofInt d.unscaled := by rw [ofInt, ← whole]
    rw [same, value_ofInt]
    rfl
  rw [made]
  refine eq_nearest ?_ (Binary64.isNegative_ofRatio ..)
  rw [number]
  exact Binary64.rounds_ofInt _

/-- If nothing but zeros is cut, the number stays the same. -/
theorem toBinary64_of_fraction (nonzero : d.unscaled ≠ 0)
    (zeros : d.cutUnit ∣ d.unscaled.natAbs) (behind : 0 < d.cutScale)
    (narrow : d.cutScale < 0x80000000) : d.toBinary64 = d.nearest := by
  rw [toBinary64_of_behind nonzero behind narrow]
  refine Binary64.ofNumeral_congr _ ?_
  rw [value_cut, Nat.mod_eq_zero_of_dvd zeros, Nat.cast_zero, zero_mul, sub_zero]

/-- A product of doubles is rounded once. -/
theorem toBinary64_of_product (nonzero : d.unscaled ≠ 0)
    (small : d.unscaled.natAbs ≤ 0x20000000000000) (front : d.scale.toInt < 0)
    (near : -22 ≤ d.scale.toInt) : d.toBinary64 = d.nearest := by
  have uncut : surplusBlocks d.unscaled.natAbs = 0 := by
    have least := (digitCount_surplus (Int.natAbs_ne_zero.mpr nonzero)).1
    have short : digitCount d.unscaled.natAbs ≤ 16 :=
      Numeral.digitCount_le (by decide) (small.trans_lt (by decide))
    omega
  have scale : d.cutScale = d.scale.toInt := by
    unfold cutScale
    omega
  have kept : d.cut.coefficient = d.unscaled.natAbs := by
    unfold cut cutUnit
    rw [uncut]
    exact Nat.div_one _
  have first : Binary64.ofLeading (decide (d.unscaled < 0)) d.unscaled.natAbs
      = .ofInt d.unscaled := Binary64.ofLeading_of_lt _ (by omega)
  obtain ⟨finite, value⟩ := (Binary64.rounds_ofInt d.unscaled).value_eq small
  have power := Binary64.tenfold_power (k := (-d.scale.toInt).toNat) (by omega)
  rw [toBinary64_of_scale nonzero (by omega), kept, scale, if_neg (by omega),
    if_neg (by omega), first]
  refine eq_nearest ?_ ?_
  · have product := Binary64.rounds_mul finite power.finite
    have exponent : ((-d.scale.toInt).toNat : ℤ) = -d.scale.toInt := by omega
    rwa [value, power.number, ← zpow_natCast, exponent] at product
  · rw [Binary64.mul_of_isFinite finite power.finite, Binary64.isNegative_ofRatio,
      power.positive, Binary64.ofInt, Binary64.isNegative_ofRatio]
    exact Bool.bne_false _

theorem toBinary64_of_overflow (nonzero : d.unscaled ≠ 0) (scaled : d.scale.toInt ≠ 0)
    (far : d.cutScale ≤ -0x80000000) : d.toBinary64 = d.nearest := by
  have digits := (digitCount_surplus (Int.natAbs_ne_zero.mpr nonzero)).1
  have large : 310 < d.absolute.place := by
    have count := Numeral.digitCount_pos d.unscaled.natAbs
    unfold cutScale at far
    unfold absolute Numeral.place
    simp only
    omega
  rw [toBinary64_of_scale nonzero scaled, if_pos (.inl far), nearest_of_large nonzero large]

/-- **Direct decimals become their nearest doubles.** -/
theorem toBinary64_of_direct (h : d.Direct) : d.toBinary64 = d.nearest := by
  by_cases zero : d.unscaled = 0
  · rw [nearest_of_zero zero, toBinary64, if_pos zero]
  · cases h with
    | zero h => exact absurd h zero
    | integer whole found => exact toBinary64_of_integer zero whole found
    | fraction zeros behind narrow => exact toBinary64_of_fraction zero zeros behind narrow
    | product small front near => exact toBinary64_of_product zero small front near
    | overflow scaled far => exact toBinary64_of_overflow zero scaled far

/-! ## Scales past 32 bits -/

/-- **A scale that needs more than 32 bits.**  A decimal with so many places behind the
point becomes infinite, while the double nearest to it is a zero. -/
theorem toBinary64_of_far (nonzero : d.unscaled ≠ 0) (far : 0x80000000 ≤ d.cutScale) :
    d.toBinary64 = .infinity (decide (d.unscaled < 0)) ∧
    d.nearest = .zero (decide (d.unscaled < 0)) := by
  have scaled : d.scale.toInt ≠ 0 := by
    unfold cutScale at far
    omega
  have digits := (digitCount_surplus (Int.natAbs_ne_zero.mpr nonzero)).2
  have small : d.absolute.place < -330 := by
    unfold cutScale at far
    unfold absolute Numeral.place
    simp only
    omega
  rw [toBinary64_of_scale nonzero scaled, if_pos (.inr far)]
  exact ⟨rfl, nearest_of_small small⟩

end Decimal

end ScanFilter
