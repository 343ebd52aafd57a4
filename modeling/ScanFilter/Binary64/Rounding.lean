import ScanFilter.Text.Numeral
import ScanFilter.Binary64
/-!
# Rounding to the nearest double

A positive rational `num / den` is rounded to the nearest double, and to the
one with the even magnitude when two are equally near.  The doubles around it
lie on a grid `2 ^ q`; the multiple of `2 ^ q` nearest to the rational, added to
the magnitude where that grid starts, is the magnitude of the result.  A carry
into the next grid needs no care, because magnitudes run on across grids, and
everything past the last finite magnitude is infinity.

* `nearestInteger` — the integer nearest to a quotient, ties to even;
* `ofRatio`, `ofInt`, `ofNumeral` — the double nearest to a quotient, an
  integer, and a decimal;
* `mul`, `power` — products rounded to nearest, powers by repeated squaring;
* `isNaN_ofRatio` — no quotient is rounded to a NaN.
-/

namespace ScanFilter.Binary64

/-- The integer nearest to `num / den`, the even one when two are equally
near. -/
def nearestInteger (num den : Nat) : Nat :=
  let low := num / den
  let rest := num % den
  if 2 * rest < den then low
  else if den < 2 * rest then low + 1
  else low + low % 2

/-- The exponent `k` with `2 ^ k ≤ num / den < 2 ^ (k + 1)`. -/
def binaryPlace (num den : Nat) : Int :=
  let k : Int := (num.log2 : Int) - den.log2
  if den <<< k.toNat ≤ num <<< (-k).toNat then k else k - 1

/-- The exponent of the grid of doubles around `num / den`. -/
def gridExponent (num den : Nat) : Int := max (binaryPlace num den - 52) (-1074)

/-- The magnitude of the double nearest to `num / den`. -/
def nearestMagnitude (num den : Nat) : Nat :=
  if num = 0 then 0
  else
    let q := gridExponent num den
    let steps := nearestInteger (num <<< (-q).toNat) (den <<< q.toNat)
    min ((q + 1074).toNat * 0x10000000000000 + steps) infinityMagnitude

/-- The double nearest to `num / den`, with a given sign. -/
def ofRatio (negative : Bool) (num den : Nat) : Binary64 :=
  ofMagnitude negative (nearestMagnitude num den)

/-- The double nearest to an integer. -/
def ofInt (n : Int) : Binary64 := ofRatio (decide (n < 0)) n.natAbs 1

/-- The double nearest to a decimal, with a given sign.  A decimal of more than
310 places before the point is infinite, and one whose first digit stands more
than 330 places after it is zero; no power of ten is formed for either. -/
def ofNumeral (negative : Bool) (n : Numeral) : Binary64 :=
  if n.coefficient = 0 ∨ n.place < -330 then zero negative
  else if 310 < n.place then infinity negative
  else
    ofRatio negative (n.coefficient * Nat.pow 10 n.exponent.toNat)
      (Nat.pow 10 (-n.exponent).toNat)

/-- The product of two doubles, rounded to nearest. -/
def mul (x y : Binary64) : Binary64 :=
  let negative := x.isNegative != y.isNegative
  if x.isNaN || y.isNaN then nan
  else if x.isFinite && y.isFinite then
    ofRatio negative (x.ratio.1 * y.ratio.1) (x.ratio.2 * y.ratio.2)
  else if x.magnitude = 0 ∨ y.magnitude = 0 then nan
  else infinity negative

/-- `acc · base ^ n`: the bits of `n` from the lowest, the base squared between
two of them, each product rounded. -/
def powerFrom (acc base : Binary64) (n : Nat) : Binary64 :=
  if n = 0 then acc
  else powerFrom (if n % 2 = 1 then acc.mul base else acc) (base.mul base) (n / 2)

/-- A power by repeated squaring. -/
def power (base : Binary64) (n : Nat) : Binary64 := powerFrom (ofInt 1) base n

/-- The nearest integer is at most half a unit away. -/
theorem nearestInteger_near (num : Nat) {den : Nat} (h : 0 < den) :
    2 * num ≤ 2 * nearestInteger num den * den + den ∧
      2 * nearestInteger num den * den ≤ 2 * num + den := by
  have split := Nat.div_add_mod num den
  have small := Nat.mod_lt num h
  have low : num / den * den = den * (num / den) := Nat.mul_comm ..
  unfold nearestInteger
  simp only
  split
  · constructor <;> rw [Nat.mul_assoc, low] <;> omega
  · split
    · constructor <;> rw [Nat.mul_assoc, Nat.add_mul, low] <;> omega
    · rcases Nat.mod_two_eq_zero_or_one (num / den) with even | odd
      · rw [even]
        constructor <;> rw [Nat.mul_assoc, Nat.add_zero, low] <;> omega
      · rw [odd]
        constructor <;> rw [Nat.mul_assoc, Nat.add_mul, low] <;> omega

/-- Rounding goes up to infinity and no further. -/
theorem nearestMagnitude_le (num den : Nat) :
    nearestMagnitude num den ≤ infinityMagnitude := by
  unfold nearestMagnitude
  split
  · exact Nat.zero_le _
  · exact Nat.min_le_right ..

/-- No quotient is rounded to a NaN. -/
theorem isNaN_ofRatio (negative : Bool) (num den : Nat) :
    (ofRatio negative num den).isNaN = false := by
  have bound := nearestMagnitude_le num den
  have small : nearestMagnitude num den < 0x8000000000000000 :=
    Nat.lt_of_le_of_lt bound (by decide)
  unfold isNaN ofRatio
  rw [magnitude_ofMagnitude negative small]
  exact decide_eq_false (Nat.not_lt.mpr bound)

end ScanFilter.Binary64
