/-!
# Double-precision numbers

A double is a 64-bit word: a sign bit in front of a **magnitude** of 63 bits.
Magnitudes are ordered as the absolute values they stand for, infinity above
every finite one and the NaNs above infinity, so that comparing two doubles is
comparing two integers.

* `compare_self`, `compare_swap` — comparison is an order on the doubles other
  than NaN, and a NaN is unordered with everything, itself included;
* `magnitude_ofMagnitude`, `isNegative_ofMagnitude` — the two parts of a word
  put together from its parts.
-/

namespace ScanFilter

/-- An IEEE 754 double, held as its word. -/
structure Binary64 where
  bits : UInt64
  deriving DecidableEq

namespace Binary64

/-- The word without its sign bit. -/
def magnitude (x : Binary64) : Nat := x.bits.toNat % 0x8000000000000000

/-- Whether the sign bit is set. -/
def isNegative (x : Binary64) : Bool := 0x8000000000000000 ≤ x.bits.toNat

/-- The magnitude of the infinities: all eleven exponent bits, no others. -/
def infinityMagnitude : Nat := 0x7ff0000000000000

/-- The double of a given sign and magnitude. -/
def ofMagnitude (negative : Bool) (magnitude : Nat) : Binary64 :=
  ⟨UInt64.ofNat (if negative then 0x8000000000000000 + magnitude else magnitude)⟩

/-- The infinity of a given sign. -/
def infinity (negative : Bool) : Binary64 := ofMagnitude negative infinityMagnitude

/-- The zero of a given sign. -/
def zero (negative : Bool) : Binary64 := ofMagnitude negative 0

/-- The NaN that arithmetic gives. -/
def nan : Binary64 := ⟨0x7ff8000000000000⟩

/-- Whether a double is a NaN. -/
def isNaN (x : Binary64) : Bool := infinityMagnitude < x.magnitude

/-- Whether a double is a number and no infinity. -/
def isFinite (x : Binary64) : Bool := x.magnitude < infinityMagnitude

/-- The integer `m` of the absolute value `m · 2 ^ q` of a finite double. -/
def significand (x : Binary64) : Nat :=
  if x.magnitude < 0x10000000000000 then x.magnitude
  else 0x10000000000000 + x.magnitude % 0x10000000000000

/-- The exponent `q` of the absolute value `m · 2 ^ q` of a finite double. -/
def exponent (x : Binary64) : Int :=
  if x.magnitude < 0x10000000000000 then -1074
  else (x.magnitude / 0x10000000000000 : Nat) - 1075

/-- The absolute value of a finite double as numerator and denominator. -/
def ratio (x : Binary64) : Nat × Nat :=
  (x.significand <<< x.exponent.toNat, 1 <<< (-x.exponent).toNat)

/-- The place of a double in the order of all doubles other than NaN; both
zeros have place zero. -/
def rank (x : Binary64) : Int :=
  if x.isNegative then -(x.magnitude : Int) else x.magnitude

/-- How two doubles compare; nothing when one of them is a NaN. -/
def compare (x y : Binary64) : Option Ordering :=
  if x.isNaN || y.isNaN then none else some (Ord.compare x.rank y.rank)

/-- A word put together from a sign and a magnitude has that magnitude. -/
theorem magnitude_ofMagnitude (negative : Bool) {m : Nat} (h : m < 0x8000000000000000) :
    (ofMagnitude negative m).magnitude = m := by
  cases negative <;> simp [ofMagnitude, magnitude] <;> omega

/-- A word put together from a sign and a magnitude has that sign. -/
theorem isNegative_ofMagnitude (negative : Bool) {m : Nat} (h : m < 0x8000000000000000) :
    (ofMagnitude negative m).isNegative = negative := by
  cases negative <;> simp [ofMagnitude, isNegative] <;> omega

/-- A double other than NaN equals itself. -/
theorem compare_self {x : Binary64} (h : x.isNaN = false) :
    x.compare x = some .eq := by
  simp [compare, h]

/-- Exchanging two doubles turns their comparison around. -/
theorem compare_swap (x y : Binary64) :
    y.compare x = (x.compare y).map Ordering.swap := by
  have turn : Ord.compare y.rank x.rank = (Ord.compare x.rank y.rank).swap :=
    Std.OrientedCmp.eq_swap
  unfold compare
  rw [Bool.or_comm]
  split
  · rfl
  · simp [turn]

end Binary64

end ScanFilter
