import ScanFilter.Value.Text
/-!
# Lines of hexadecimal bytes

A **line** of bytes has two lower-case hexadecimal digits for each of them, the high one
first, and one space between two bytes.  It is told by the digits and by nothing else
what the bytes are, so no two rows of bytes share a line.

* `line_spaced` — the spaced digits of some bytes are their line;
* `Line.unique` — a line determines its bytes;
* `Line.newline_not_mem` — a line does not break.
-/

namespace ScanFilter.Hex

/-- The hexadecimal digits, zero first. -/
def alphabet : List Char :=
  ['0', '1', '2', '3', '4', '5', '6', '7', '8', '9', 'a', 'b', 'c', 'd', 'e', 'f']

/-- Whether two characters are the digits of a byte, the high one first. -/
structure IsPair (b : UInt8) (high low : Char) : Prop where
  high : alphabet[b.toNat / 16]? = some high
  low : alphabet[b.toNat % 16]? = some low

/-- The line of some bytes. -/
inductive Line : List UInt8 → List Char → Prop
  | nil : Line [] []
  | single {b : UInt8} {high low : Char} (h : IsPair b high low) : Line [b] [high, low]
  | cons {b c : UInt8} {high low : Char} {bytes : List UInt8} {rest : List Char}
      (h : IsPair b high low) (next : Line (c :: bytes) rest) :
      Line (b :: c :: bytes) (high :: low :: ' ' :: rest)

theorem getElem?_alphabet {n : Nat} (h : n < 16) :
    alphabet[n]? = some (Nat.digitChar n) :=
  (by decide : ∀ n < 16, alphabet[n]? = some (Nat.digitChar n)) n h

theorem isPair_digits (b : UInt8) :
    IsPair b (Nat.digitChar (b.toNat / 16)) (Nat.digitChar (b.toNat % 16)) := by
  have small := b.toNat_lt
  exact ⟨getElem?_alphabet (by omega), getElem?_alphabet (by omega)⟩

/-- Two digits are those of one byte only. -/
theorem IsPair.unique {a b : UInt8} {high low : Char} (ha : IsPair a high low)
    (hb : IsPair b high low) : a = b := by
  have distinct : alphabet.Nodup := by decide
  have small := a.toNat_lt
  have inHigh : a.toNat / 16 < alphabet.length := by
    change _ < 16
    omega
  have inLow : a.toNat % 16 < alphabet.length := by
    change _ < 16
    omega
  have sameHigh : a.toNat / 16 = b.toNat / 16 :=
    (List.getElem?_inj inHigh distinct).mp (ha.high.trans hb.high.symm)
  have sameLow : a.toNat % 16 = b.toNat % 16 :=
    (List.getElem?_inj inLow distinct).mp (ha.low.trans hb.low.symm)
  exact UInt8.toNat.inj (by omega)

theorem line_intercalate (bytes : List UInt8) :
    Line bytes ([' '].intercalate (bytes.map pair)) := by
  induction bytes with
  | nil => exact .nil
  | cons b bytes ih =>
      rcases bytes with _ | ⟨c, bytes⟩
      · exact .single (isPair_digits b)
      · exact .cons (isPair_digits b) ih

/-- The spaced digits of some bytes are their line. -/
theorem line_spaced (bytes : List UInt8) : Line bytes (spaced bytes).toList := by
  have chars : (spaced bytes).toList = [' '].intercalate (bytes.map pair) := by
    rw [spaced, String.toList_intercalate, List.map_map]
    congr 1
    exact List.map_congr_left fun b _ => String.toList_ofList
  rw [chars]
  exact line_intercalate bytes

/-- A line determines its bytes. -/
theorem Line.unique {bytes other : List UInt8} {line : List Char} (h : Line bytes line)
    (h' : Line other line) : bytes = other := by
  induction h generalizing other with
  | nil =>
      cases h'
      rfl
  | single h =>
      rcases h' with _ | h'
      rw [h.unique h']
  | cons h next ih =>
      rcases h' with _ | _ | ⟨h', next'⟩
      rw [h.unique h', ih next']

theorem IsPair.mem {b : UInt8} {high low : Char} (h : IsPair b high low) :
    high ∈ alphabet ∧ low ∈ alphabet :=
  ⟨List.mem_of_getElem? h.high, List.mem_of_getElem? h.low⟩

/-- A line does not break. -/
theorem Line.newline_not_mem {bytes : List UInt8} {line : List Char} (h : Line bytes line) :
    '\n' ∉ line := by
  have solid : '\n' ∉ alphabet := by decide
  induction h with
  | nil => exact List.not_mem_nil
  | single h => grind [h.mem]
  | cons h next ih => grind [h.mem]

end ScanFilter.Hex
