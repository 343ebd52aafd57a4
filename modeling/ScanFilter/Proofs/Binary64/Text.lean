import ScanFilter.Binary64.Text
import ScanFilter.Proofs.Binary64.Shortest
import ScanFilter.Proofs.Text.Integer
/-!
# Reading back the text of a double

A double is written as its shortest decimal, which is in the cell of its magnitude, and
reading rounds a decimal to the rank of its cell.  So the magnitude comes back, whatever
numeral the digits are read as; and the sign, which stands apart, comes back with it, also
that of a zero.  Infinities and NaNs have names.  A NaN comes back as a NaN, but not
always as the same word.

* `Numeral.ofText?_positional` — positional notation is read as the number that it is of;
* `ofText?_of_spells` — a text that spells an integer is read as the double of it;
* `ofNumeral_of_readsBack` — a decimal that is read back as a magnitude, with a sign;
* `ofText?_text`, `exists_ofText?_text` — the text of a double is read as the double, and
  that of a NaN as a NaN.
-/

namespace ScanFilter

namespace Numeral

variable {digits front fraction rest : List Char} {e : ℤ}

/-- Where an exponent may stand there is neither a digit nor a point. -/
theorem cut_exponent (exponent : exponentOfText? rest = some e) :
    rest.takeWhile Char.isDigit = [] ∧ rest.dropWhile Char.isDigit = rest ∧
      ∀ after, rest ≠ '.' :: after := by
  cases rest with
  | nil => exact ⟨rfl, rfl, fun _ => nofun⟩
  | cons c cs =>
      have letter : c = 'e' ∨ c = 'E' := by
        by_contra other
        rw [exponentOfText?, if_neg other] at exponent
        cases exponent
      rcases letter with rfl | rfl
      · exact ⟨rfl, rfl, fun _ => nofun⟩
      · exact ⟨rfl, rfl, fun _ => nofun⟩

/-- Digits and an exponent are read as the numeral that they are. -/
theorem ofText?_whole (all : AllDigits front) (nonempty : front ≠ [])
    (exponent : exponentOfText? rest = some e) :
    ofText? (front ++ rest) = some ⟨natural front, e⟩ := by
  -- that the rest begins with no point picks the branch of the reader
  obtain ⟨none, kept, point⟩ := cut_exponent exponent
  have before : (front ++ rest).takeWhile Char.isDigit = front := by
    rw [List.takeWhile_append_of_pos all, none, List.append_nil]
  have after : (front ++ rest).dropWhile Char.isDigit = rest := by
    rw [List.dropWhile_append_of_pos all, kept]
  simp [ofText?, before, after, nonempty, exponent]

/-- Digits around a point and an exponent are read as the numeral that they are. -/
theorem ofText?_point (nonempty : front ≠ []) (all : AllDigits front)
    (all' : AllDigits fraction) (exponent : exponentOfText? rest = some e) :
    ofText? (front ++ '.' :: (fraction ++ rest))
      = some ⟨natural (front ++ fraction), e - fraction.length⟩ := by
  obtain ⟨none, kept, _⟩ := cut_exponent exponent
  have before : (front ++ '.' :: (fraction ++ rest)).takeWhile Char.isDigit = front := by
    rw [List.takeWhile_append_of_pos all]
    simp
  have after : (front ++ '.' :: (fraction ++ rest)).dropWhile Char.isDigit
      = '.' :: (fraction ++ rest) := by
    rw [List.dropWhile_append_of_pos all]
    simp
  have whole : (fraction ++ rest).takeWhile Char.isDigit = fraction := by
    rw [List.takeWhile_append_of_pos all', none, List.append_nil]
  have tail : (fraction ++ rest).dropWhile Char.isDigit = rest := by
    rw [List.dropWhile_append_of_pos all', kept]
  simp [ofText?, before, after, whole, tail, nonempty, exponent]

/-- No text at all is no exponent. -/
theorem exponentOfText?_nil : exponentOfText? [] = some 0 := rfl

/-- Digits alone are read as the numeral that they are. -/
theorem ofText?_digits (all : AllDigits digits) (nonempty : digits ≠ []) :
    ofText? digits = some ⟨natural digits, 0⟩ := by
  have read := ofText?_whole all nonempty exponentOfText?_nil
  rwa [List.append_nil] at read

/-- Positional notation is read as a numeral of the same number. -/
theorem ofText?_positional (n : Numeral) :
    ∃ m, ofText? n.positional = some m ∧ m.value = n.value := by
  by_cases whole : 0 ≤ n.exponent
  · obtain ⟨nonempty, all, denotes⟩ := positional_whole whole
    refine ⟨_, ofText?_digits all nonempty, ?_⟩
    have exponent : (n.exponent.toNat : ℤ) = n.exponent := Int.toNat_of_nonneg whole
    rw [denotes, value, value, zpow_zero, mul_one, Nat.cast_mul, cast_pow_ten, exponent]
  · obtain ⟨front, fraction, parts, nonempty, all, all', length, denotes⟩ :=
      positional_point (Int.not_le.mp whole)
    refine ⟨n, ?_, rfl⟩
    have read := ofText?_point nonempty all all' exponentOfText?_nil
    rwa [List.append_nil, ← parts, denotes, length, zero_sub, neg_neg] at read

end Numeral

namespace LetterCase

/-- A digit has no case. -/
theorem toLower_of_isDigit {c : Char} (h : c.isDigit = true) : c.toLower = c := by
  have last : c.val ≤ 57 := by
    simp only [Char.isDigit, Bool.and_eq_true, decide_eq_true_iff] at h
    exact h.2
  have low : ¬ (c.val ≥ 'A'.val ∧ c.val ≤ 'Z'.val) := by
    rintro ⟨first, _⟩
    exact absurd (UInt32.le_trans first last) (by decide)
  exact dif_neg low

/-- What begins with a digit is no name that begins with a letter. -/
theorem equalIgnoringCase_of_digit {d c : Char} (digit : d.isDigit = true)
    (letter : c.toLower.isDigit = false) (ds cs : List Char) :
    equalIgnoringCase (d :: ds) (c :: cs) = false := by
  have differ : d.toLower ≠ c.toLower := by
    rw [toLower_of_isDigit digit]
    rintro rfl
    rw [digit] at letter
    cases letter
  simp [equalIgnoringCase, differ]

end LetterCase

namespace Binary64

open Blank (Solid solid_cons)
open LetterCase (equalIgnoringCase_of_digit)
open Numeral (Spells natural splitSign)

variable {x : Binary64} {n : Numeral} {cs ds : List Char} {z : ℤ} {negative : Bool}

/-- What begins with a digit behind its sign is read as the numeral that it is. -/
theorem ofText?_of_digit {c : Char} (digit : c.isDigit = true)
    (split : splitSign cs = (negative, c :: ds)) :
    ofText? cs = (Numeral.ofText? (c :: ds)).map (ofNumeral negative) := by
  unfold ofText?
  simp only [split]
  rw [equalIgnoringCase_of_digit digit (by decide), equalIgnoringCase_of_digit digit (by decide),
    equalIgnoringCase_of_digit digit (by decide)]
  rfl

/-- A text that spells an integer is read as the double that the integer is rounded to. -/
theorem ofText?_of_spells (h : Spells cs z) : ∃ x, ofText? cs = some x ∧ Rounds z x := by
  obtain ⟨sign, unit, digits, rfl, signed, nonempty, all, rfl⟩ := h
  have number : ((unit * natural digits : ℤ) : ℚ)
      = withSignOf (decide (unit < 0)) (Numeral.value ⟨natural digits, 0⟩) := by
    rw [Numeral.value, zpow_zero, mul_one]
    cases signed with
    | minus => simp [withSignOf]
    | _ => simp [withSignOf]
  have split := signed.splitSign all
  have read := Numeral.ofText?_digits all nonempty
  obtain ⟨c, ds, rfl⟩ := List.exists_cons_of_ne_nil nonempty
  refine ⟨_, ?_, number ▸ rounds_ofNumeral _ _⟩
  rw [ofText?_of_digit (all c List.mem_cons_self) split, read]
  rfl

/-! ## The text of a double -/

/-- The sign of a decimal is set apart from what its double is otherwise. -/
theorem exists_ofNumeral (n : Numeral) :
    ∃ m < 0x8000000000000000, ∀ negative, ofNumeral negative n = ofMagnitude negative m := by
  unfold ofNumeral
  split
  · exact ⟨0, by decide, fun _ => rfl⟩
  · split
    · exact ⟨infinityMagnitude, by decide, fun _ => rfl⟩
    · exact ⟨_, lt_of_le_of_lt (nearestMagnitude_le ..) (by decide), fun _ => rfl⟩

/-- A decimal that is read back as the absolute value of a double is read as the double
with the sign of the double. -/
theorem ofNumeral_of_readsBack (h : x.readsBack n = true) : ofNumeral x.isNegative n = x := by
  obtain ⟨m, small, made⟩ := exists_ofNumeral n
  have same : m = x.magnitude := by
    rw [readsBack, made, magnitude_ofMagnitude false small] at h
    exact beq_iff_eq.mp h
  rw [made]
  refine eq_of_parts (isNegative_ofMagnitude _ small) ?_
  rw [magnitude_ofMagnitude _ small, same]

/-- Of a text with a sign in front that begins with a digit, the sign is split off. -/
theorem splitSign_withSign (x : Binary64) {c : Char} (digit : c.isDigit = true)
    (cs : List Char) : splitSign (x.withSign (c :: cs)) = (x.isNegative, c :: cs) := by
  unfold withSign
  cases x.isNegative with
  | true => rfl
  | false => exact Numeral.splitSign_of_digit digit cs

theorem eq_infinity (number : x.isNaN = false) (infinite : x.isFinite = false) :
    x = infinity x.isNegative := by
  have magnitude : x.magnitude = infinityMagnitude := by
    have high := of_decide_eq_false number
    have low := of_decide_eq_false infinite
    omega
  refine eq_of_parts (isNegative_ofMagnitude _ (by decide)).symm ?_
  rw [magnitude, infinity, magnitude_ofMagnitude _ (by decide)]

/-- **Reading undoes writing.**  The text of a double other than NaN is read as the
double. -/
theorem ofText?_text (h : x.isNaN = false) : ofText? x.text = some x := by
  unfold text specialText?
  rw [h, if_neg Bool.false_ne_true]
  by_cases finite : x.isFinite = true
  · obtain ⟨m, read, value⟩ := x.shortest.ofText?_positional
    obtain ⟨c, cs, shape, digit⟩ := x.shortest.exists_cons_positional
    have back : x.readsBack m = true := by
      rw [readsBack_iff finite, value]
      exact inCell_shortest finite
    rw [shape] at read
    rw [if_pos finite, Option.getD_none, shape,
      ofText?_of_digit digit (x.splitSign_withSign digit cs), read]
    exact congrArg some (ofNumeral_of_readsBack back)
  · rw [Bool.not_eq_true] at finite
    have same := eq_infinity h finite
    rw [finite, if_neg Bool.false_ne_true, Option.getD_some]
    conv => rhs; rw [same]
    unfold withSign
    cases x.isNegative <;> rfl

/-- The text of a NaN is read as a NaN. -/
theorem ofText?_text_of_isNaN (h : x.isNaN = true) : ofText? x.text = some nan := by
  rw [text_of_isNaN h]
  rfl

/-- Whether a double is another one, or both are NaN. -/
def Alike (x y : Binary64) : Prop := y = x ∨ x.isNaN = true ∧ y.isNaN = true

/-- The text of any double is read as the double, up to the word of a NaN. -/
theorem exists_ofText?_text (x : Binary64) : ∃ y, ofText? x.text = some y ∧ x.Alike y := by
  cases number : x.isNaN with
  | false => exact ⟨x, ofText?_text number, .inl rfl⟩
  | true => exact ⟨nan, ofText?_text_of_isNaN number, .inr ⟨number, rfl⟩⟩

/-- A double is written without blanks. -/
theorem solid_text (x : Binary64) : Solid x.text := by
  have signed {cs : List Char} (h : Solid cs) : Solid (x.withSign cs) := by
    unfold withSign
    split
    · exact solid_cons.mpr ⟨by decide, h⟩
    · exact h
  unfold text specialText?
  split
  · exact (by decide : Solid ['N', 'a', 'N'])
  · split
    · exact signed x.shortest.solid_positional
    · exact signed (by decide)

end Binary64

end ScanFilter
