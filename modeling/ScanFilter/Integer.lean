/-!
# Fixed-width integers

Column values hold signed integers of 16, 32 and 64 bits.  An integer goes into
one of these widths only when it is in range.  Larger integers are held as digits of
64 bits, which are called limbs.

* `short?_toInt`, `int?_toInt`, `long?_toInt` — a value that already has the
  width is in range and goes through unchanged;
* `short?_eq_some_iff`, `int?_eq_some_iff`, `long?_eq_some_iff` — a width holds
  the integers that have its values;
* `ofNat_toUInt16`, `ofNat_toUInt32`, `ofNat_toUInt64` — a signed integer is that of
  the unsigned word of the same bits;
* `limbs_zero`, `limbs_succ` — the limbs of zero, and of any other number.
-/

namespace ScanFilter.Integer

/-- The 16-bit integer of a given value, when the value is in range. -/
def short? (n : Int) : Option Int16 :=
  if -0x8000 ≤ n ∧ n < 0x8000 then some (Int16.ofInt n) else none

/-- The 32-bit integer of a given value, when the value is in range. -/
def int? (n : Int) : Option Int32 :=
  if -0x80000000 ≤ n ∧ n < 0x80000000 then some (Int32.ofInt n) else none

/-- The 64-bit integer of a given value, when the value is in range. -/
def long? (n : Int) : Option Int64 :=
  if -0x8000000000000000 ≤ n ∧ n < 0x8000000000000000 then some (Int64.ofInt n)
  else none

/-- A 16-bit integer goes through unchanged. -/
theorem short?_toInt (n : Int16) : short? n.toInt = some n := by
  rw [short?, if_pos ⟨n.le_toInt, n.toInt_lt⟩, Int16.ofInt_toInt]

/-- A 32-bit integer goes through unchanged. -/
theorem int?_toInt (n : Int32) : int? n.toInt = some n := by
  rw [int?, if_pos ⟨n.le_toInt, n.toInt_lt⟩, Int32.ofInt_toInt]

/-- A 64-bit integer goes through unchanged. -/
theorem long?_toInt (n : Int64) : long? n.toInt = some n := by
  rw [long?, if_pos ⟨n.le_toInt, n.toInt_lt⟩, Int64.ofInt_toInt]

/-- An integer of 16 bits is the one that has its value. -/
theorem short?_eq_some_iff {z : Int} {n : Int16} : short? z = some n ↔ n.toInt = z := by
  constructor
  · intro found
    unfold short? at found
    split at found
    · next range =>
        cases found
        exact Int16.toInt_ofInt_of_le range.1 range.2
    · cases found
  · rintro rfl
    exact short?_toInt n

/-- An integer of 32 bits is the one that has its value. -/
theorem int?_eq_some_iff {z : Int} {n : Int32} : int? z = some n ↔ n.toInt = z := by
  constructor
  · intro found
    unfold int? at found
    split at found
    · next range =>
        cases found
        exact Int32.toInt_ofInt_of_le range.1 range.2
    · cases found
  · rintro rfl
    exact int?_toInt n

/-- An integer of 64 bits is the one that has its value. -/
theorem long?_eq_some_iff {z : Int} {n : Int64} : long? z = some n ↔ n.toInt = z := by
  constructor
  · intro found
    unfold long? at found
    split at found
    · next range =>
        cases found
        exact Int64.toInt_ofInt_of_le range.1 range.2
    · cases found
  · rintro rfl
    exact long?_toInt n

-- A signed integer travels as the unsigned word of the same bits.

theorem ofNat_toUInt16 (n : Int16) : Int16.ofNat n.toUInt16.toNat = n := by
  apply Int16.toBitVec.inj
  simp

theorem ofNat_toUInt32 (n : Int32) : Int32.ofNat n.toUInt32.toNat = n := by
  apply Int32.toBitVec.inj
  simp

theorem ofNat_toUInt64 (n : Int64) : Int64.ofNat n.toUInt64.toNat = n := by
  apply Int64.toBitVec.inj
  simp

end ScanFilter.Integer

namespace ScanFilter

/-- The digits of a number in base `2 ^ 64`, the least significant first. -/
def limbs (n : Nat) : List Nat :=
  if n = 0 then [] else n % 0x10000000000000000 :: limbs (n / 0x10000000000000000)
  termination_by n
  decreasing_by omega

/-- Zero has no limbs. -/
theorem limbs_zero : limbs 0 = [] := by
  rw [limbs, if_pos rfl]

/-- Any other number has its remainder in front of the limbs of its quotient. -/
theorem limbs_succ {n : Nat} (h : n ≠ 0) :
    limbs n = n % 0x10000000000000000 :: limbs (n / 0x10000000000000000) := by
  rw [limbs, if_neg h]

end ScanFilter
