/-!
# Fixed-width words of bytes

A number below `256 ^ width` is a word of `width` bytes, the least significant
byte first or last.

* `length_littleEndian`, `length_bigEndian` — a word has its width;
* `ofLittleEndian_littleEndian`, `ofBigEndian_bigEndian` — reading a word gives
  the number back;
* `littleEndian_ofLittleEndian` — and the number has no other word of that width.
-/

namespace ScanFilter.Bytes

/-- A word of a given width, the least significant byte first. -/
def littleEndian : Nat → Nat → List UInt8
  | 0, _ => []
  | width + 1, n => UInt8.ofNat (n % 256) :: littleEndian width (n / 256)

/-- The number of a word whose least significant byte is first. -/
def ofLittleEndian : List UInt8 → Nat
  | [] => 0
  | b :: bytes => b.toNat + 256 * ofLittleEndian bytes

/-- A word of a given width, the most significant byte first. -/
def bigEndian (width n : Nat) : List UInt8 := (littleEndian width n).reverse

/-- The number of a word whose most significant byte is first. -/
def ofBigEndian (bytes : List UInt8) : Nat := ofLittleEndian bytes.reverse

/-- A word has its width. -/
theorem length_littleEndian (width n : Nat) : (littleEndian width n).length = width := by
  induction width generalizing n with
  | zero => rfl
  | succ width ih => simp [littleEndian, ih]

/-- A word has its width. -/
theorem length_bigEndian (width n : Nat) : (bigEndian width n).length = width := by
  rw [bigEndian, List.length_reverse, length_littleEndian]

/-- Reading a word gives the number back. -/
theorem ofLittleEndian_littleEndian {width n : Nat} (h : n < Nat.pow 256 width) :
    ofLittleEndian (littleEndian width n) = n := by
  induction width generalizing n with
  | zero => simp_all [littleEndian, ofLittleEndian]
  | succ width ih =>
      have step : Nat.pow 256 (width + 1) = Nat.pow 256 width * 256 := Nat.pow_succ ..
      have rest : n / 256 < Nat.pow 256 width := by omega
      simp only [littleEndian, ofLittleEndian, ih rest, UInt8.toNat_ofNat']
      omega

/-- Reading a word gives the number back. -/
theorem ofBigEndian_bigEndian {width n : Nat} (h : n < Nat.pow 256 width) :
    ofBigEndian (bigEndian width n) = n := by
  rw [ofBigEndian, bigEndian, List.reverse_reverse, ofLittleEndian_littleEndian h]

/-- A word of a given width is below the power of 256. -/
theorem ofLittleEndian_lt (bytes : List UInt8) :
    ofLittleEndian bytes < Nat.pow 256 bytes.length := by
  induction bytes with
  | nil => decide
  | cons b bytes ih =>
      have small := b.toNat_lt
      have step : Nat.pow 256 (bytes.length + 1) = Nat.pow 256 bytes.length * 256 :=
        Nat.pow_succ ..
      simp only [ofLittleEndian, List.length_cons]
      omega

/-- The number of a word is written as that word. -/
theorem littleEndian_ofLittleEndian (bytes : List UInt8) :
    littleEndian bytes.length (ofLittleEndian bytes) = bytes := by
  induction bytes with
  | nil => rfl
  | cons b bytes ih =>
      have small := b.toNat_lt
      have low : (b.toNat + 256 * ofLittleEndian bytes) % 256 = b.toNat := by omega
      have high : (b.toNat + 256 * ofLittleEndian bytes) / 256 = ofLittleEndian bytes := by
        omega
      rw [ofLittleEndian, List.length_cons, littleEndian, low, high, ih, UInt8.ofNat_toNat]

end ScanFilter.Bytes
