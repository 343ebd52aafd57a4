import Mathlib.Data.List.TakeWhile
import ScanFilter.Decimal.Text
import ScanFilter.Proofs.Outcome
import ScanFilter.Proofs.Text.Blank
/-!
# Reading back the text of a decimal

A decimal is written in one of four forms, and reading each of them gives the
same number.  The form of the decimal is not always the same: zero loses its
scale, and an integer with up to fifteen zeros that only its scale holds is read
as an integer of scale zero.  What comes back is the **canonical** decimal of the
text.

* `solid_text` — a decimal is written without blanks;
* `ofText_text` — reading a text gives the canonical decimal;
* `text_canonical` — the canonical decimal has the same text.
-/

namespace ScanFilter.Decimal

open Blank (Solid solid_append solid_cons)
open Numeral (AllDigits allDigits_digits allDigits_zeros digits digitCount integer natural
  signed splitSign)

/-- The decimal that the text of a decimal denotes. -/
def canonical (d : Decimal) : Decimal :=
  if d.unscaled = 0 then ⟨0, 0⟩
  else if -15 ≤ d.scale.toInt ∧ d.scale.toInt ≤ 0 then
    ⟨d.unscaled * Nat.pow 10 (-d.scale.toInt).toNat, 0⟩
  else d

/-! ## Exponents -/

/-- More digits never make a number smaller. -/
theorem le_ofDigitChars (ds : List Char) (m : Nat) : m ≤ Nat.ofDigitChars 10 ds m := by
  induction ds generalizing m with
  | nil => simp
  | cons c ds ih =>
      rw [Nat.ofDigitChars_cons]
      have rest := ih (10 * m + (c.toNat - '0'.toNat))
      omega

/-- One more digit of an exponent that stays within 128 bits. -/
theorem exponentDigit_signed (negative : Bool) {c : Char} (hc : c.isDigit = true) {m : Nat}
    (small : 10 * m + (c.toNat - '0'.toNat) < Nat.pow 2 127) :
    exponentDigit negative (signed negative m) c
      = .ok (signed negative (10 * m + (c.toNat - '0'.toNat))) := by
  have digit : natural [c] = c.toNat - '0'.toNat := by
    simp [natural, Nat.ofDigitChars_cons]
  have limit : Int.pow 2 127 = (Nat.pow 2 127 : Nat) := by decide
  unfold exponentDigit
  rw [digit, limit, hc]
  generalize Nat.pow 2 127 = limit at small ⊢
  cases negative with
  | true =>
      simp only [signed, Bool.not_true, Bool.false_eq_true, if_false, if_true]
      rw [if_neg (by omega), if_neg (by omega)]
      congr 1
      omega
  | false =>
      simp only [signed, Bool.not_true, Bool.false_eq_true, if_false]
      rw [if_neg (by omega), if_neg (by omega)]
      congr 1

/-- The digits of an exponent are read from the first to the last. -/
theorem foldlM_exponentDigit (negative : Bool) {ds : List Char} (hd : AllDigits ds) {m : Nat}
    (small : Nat.ofDigitChars 10 ds m < Nat.pow 2 127) :
    ds.foldlM (exponentDigit negative) (signed negative m)
      = .ok (signed negative (Nat.ofDigitChars 10 ds m)) := by
  induction ds generalizing m with
  | nil => simp [pure, Except.pure]
  | cons c ds ih =>
      rw [Nat.ofDigitChars_cons] at small ⊢
      have step := Nat.lt_of_le_of_lt (le_ofDigitChars ds _) small
      have first := exponentDigit_signed negative (hd c List.mem_cons_self) step
      have tail := ih (hd.subset (List.subset_cons_self c ds)) small
      rw [List.foldlM_cons, first]
      exact tail

/-- The digits of a number below `2 ^ 127`, read as the magnitude of an exponent. -/
theorem foldlM_digits (negative : Bool) {n : Nat} (small : n < Nat.pow 2 127) :
    (digits n).foldlM (exponentDigit negative) 0 = .ok (signed negative n) := by
  have back : Nat.ofDigitChars 10 (digits n) 0 = n := Numeral.natural_digits n
  have start : signed negative 0 = 0 := by cases negative <;> rfl
  have run := foldlM_exponentDigit negative (allDigits_digits n) (m := 0) (by rwa [back])
  rwa [back, start] at run

/-- Reading the text of an exponent gives the exponent. -/
theorem exponentOfText_integer {e : Int} (small : e.natAbs < Nat.pow 2 127) :
    exponentOfText (integer e) = .ok e := by
  have nonempty : integer e ≠ [] := by
    unfold integer
    split
    · exact List.cons_ne_nil _ _
    · exact Numeral.digits_ne_nil _
  unfold exponentOfText
  rw [if_neg nonempty, Numeral.splitSign_integer]
  simp only
  rw [if_neg (Numeral.digits_ne_nil _), foldlM_digits _ small, Numeral.signed_natAbs]

/-- An exponent that is not negative may carry a plus sign. -/
theorem exponentOfText_plus {e : Int} (pos : 0 ≤ e) (small : e.natAbs < Nat.pow 2 127) :
    exponentOfText ('+' :: integer e) = .ok e := by
  have plain : integer e = digits e.natAbs := if_neg (Int.not_lt.mpr pos)
  have value : signed false e.natAbs = e := Int.natAbs_of_nonneg pos
  unfold exponentOfText
  rw [if_neg (List.cons_ne_nil _ _), plain]
  simp only [splitSign]
  rw [if_neg (Numeral.digits_ne_nil _), foldlM_digits _ small, value]

/-! ## Digits and the point -/

/-- A minus sign, or nothing. -/
def minusSign (negative : Bool) : List Char := if negative then ['-'] else []

/-- A digit or a minus sign is no point. -/
theorem minusSign_ne_point (negative : Bool) {ds : List Char} (hd : AllDigits ds) :
    ∀ c ∈ minusSign negative ++ ds, c ≠ '.' := by
  intro c hc
  rcases List.mem_append.mp hc with hc | hc
  · cases negative with
    | false => cases hc
    | true => rw [List.mem_singleton.mp hc]; decide
  · exact hd.ne hc (by decide)

/-- Without a point nothing stands after it. -/
theorem splitPoint_whole {cs : List Char} (h : ∀ c ∈ cs, c ≠ '.') :
    splitPoint cs = (cs, 0) := by
  have whole : cs.takeWhile (· != '.') = cs :=
    List.takeWhile_eq_self_iff.mpr (fun c hc => bne_iff_ne.mpr (h c hc))
  have rest : cs.dropWhile (· != '.') = [] :=
    List.dropWhile_eq_nil_iff.mpr (fun c hc => bne_iff_ne.mpr (h c hc))
  simp [splitPoint, whole, rest]

/-- A point splits a numeral into what stands in front of it and what follows. -/
theorem splitPoint_point {cs fraction : List Char} (h : ∀ c ∈ cs, c ≠ '.')
    (hf : AllDigits fraction) :
    splitPoint (cs ++ '.' :: fraction) = (cs ++ fraction, fraction.length) := by
  have keep : ∀ c ∈ cs, (c != '.') = true := fun c hc => bne_iff_ne.mpr (h c hc)
  have front : (cs ++ '.' :: fraction).takeWhile (· != '.') = cs := by
    rw [List.takeWhile_append_of_pos keep]
    simp
  have back : (cs ++ '.' :: fraction).dropWhile (· != '.') = '.' :: fraction := by
    rw [List.dropWhile_append_of_pos keep]
    simp
  have digitsOnly : fraction.filter (· != '_') = fraction :=
    List.filter_eq_self.mpr (fun c hc => bne_iff_ne.mpr (hf.ne hc (by decide)))
  simp only [splitPoint, front, back, List.drop_succ_cons, List.drop_zero, digitsOnly]

/-- Digits alone are read as their number. -/
theorem naturalOfText_digits {ds : List Char} (hd : AllDigits ds) (hne : ds ≠ []) :
    naturalOfText ds = .ok (natural ds) := by
  obtain ⟨c, cs, rfl⟩ := List.exists_cons_of_ne_nil hne
  have low : c ≠ '_' := hd.ne List.mem_cons_self (by decide)
  have digitsOnly : (c :: cs).filter (· != '_') = c :: cs :=
    List.filter_eq_self.mpr (fun d h => bne_iff_ne.mpr (hd.ne h (by decide)))
  have all : ((c :: cs).all fun d => d.isDigit || d == '_') = true :=
    List.all_eq_true.mpr (fun d h => by rw [hd d h]; rfl)
  unfold naturalOfText
  split
  · next h => cases h
  · next h =>
      cases h
      exact absurd rfl low
  · rw [if_pos all, digitsOnly]

/-- Digits without a sign are read as their number. -/
theorem unsignedOfText_digits {ds : List Char} (hd : AllDigits ds) (hne : ds ≠ []) :
    unsignedOfText ds = .ok (natural ds) := by
  obtain ⟨c, cs, rfl⟩ := List.exists_cons_of_ne_nil hne
  have plus : c ≠ '+' := hd.ne List.mem_cons_self (by decide)
  unfold unsignedOfText
  split
  · next h =>
      cases h
      exact absurd rfl plus
  · next h =>
      cases h
      exact absurd rfl plus
  · exact naturalOfText_digits hd hne

/-- Digits behind a plus sign are read as their number. -/
theorem unsignedOfText_plus {ds : List Char} (hd : AllDigits ds) (hne : ds ≠ []) :
    unsignedOfText ('+' :: ds) = .ok (natural ds) := by
  obtain ⟨c, cs, rfl⟩ := List.exists_cons_of_ne_nil hne
  have plus : c ≠ '+' := hd.ne List.mem_cons_self (by decide)
  unfold unsignedOfText
  split
  · next h =>
      cases h
      exact absurd rfl plus
  · next h =>
      cases h
      exact naturalOfText_digits hd hne
  · next h => exact (h (c :: cs) rfl).elim

/-- Digits behind an optional minus sign are read as their number with that
sign. -/
theorem unscaledOfText_digits (negative : Bool) {ds : List Char} (hd : AllDigits ds)
    (hne : ds ≠ []) :
    unscaledOfText (minusSign negative ++ ds) = .ok (signed negative (natural ds)) := by
  obtain ⟨c, cs, rfl⟩ := List.exists_cons_of_ne_nil hne
  have plus : c ≠ '+' := hd.ne List.mem_cons_self (by decide)
  have minus : c ≠ '-' := hd.ne List.mem_cons_self (by decide)
  have read := unsignedOfText_digits hd hne
  cases negative with
  | true =>
      simp only [minusSign, if_true, List.singleton_append]
      unfold unscaledOfText
      split
      · next h =>
          cases h
          exact absurd rfl plus
      · next h =>
          cases h
          rw [read]
          rfl
      · next _ h => exact (h (c :: cs) rfl).elim
  | false =>
      simp only [minusSign, Bool.false_eq_true, if_false, List.nil_append]
      unfold unscaledOfText
      split
      · next h =>
          cases h
          exact absurd rfl minus
      · next h =>
          cases h
          exact absurd rfl minus
      · rw [read]
        rfl

/-! ## The four forms -/

/-- What may follow the digits of a numeral, and the exponent that it says. -/
inductive Tail : List Char → Int → Prop
  | none {e : Int} (hzero : e = 0) : Tail [] e
  | marked {mark : Char} {rest : List Char} {e : Int} (hmark : mark = 'e' ∨ mark = 'E')
      (hrest : exponentOfText rest = .ok e) : Tail (mark :: rest) e

/-- A numeral is read from its parts: digits with their sign, places after the
point, and an exponent. -/
theorem ofText_of_parts {base tail ds : List Char} {places : Nat} {exponent u : Int}
    {scale : Int64} (hbase : ∀ c ∈ base, c ≠ 'e' ∧ c ≠ 'E') (hne : base ≠ [])
    (htail : Tail tail exponent) (hsplit : splitPoint base = (ds, places))
    (hdigits : unscaledOfText ds = .ok u) (hscale : (places : Int) - exponent = scale.toInt) :
    ofText (base ++ tail) = .ok ⟨u, scale⟩ := by
  have keep : ∀ c ∈ base, (c != 'e' && c != 'E') = true := by
    intro c hc
    obtain ⟨small, capital⟩ := hbase c hc
    rw [bne_iff_ne.mpr small, bne_iff_ne.mpr capital]
    rfl
  have inRange : Integer.long? ((places : Int) - exponent) = some scale := by
    rw [hscale]
    exact Integer.long?_toInt scale
  have front : (base ++ tail).takeWhile (fun c => c != 'e' && c != 'E') = base := by
    rw [List.takeWhile_append_of_pos keep]
    cases htail with
    | none => simp
    | marked hmark _ => rcases hmark with rfl | rfl <;> simp
  have back : (base ++ tail).dropWhile (fun c => c != 'e' && c != 'E') = tail := by
    rw [List.dropWhile_append_of_pos keep]
    cases htail with
    | none => rfl
    | marked hmark _ => rcases hmark with rfl | rfl <;> simp
  unfold ofText
  simp only [front, back, if_neg hne, hsplit, hdigits]
  cases htail with
  | none hzero =>
      rw [← hzero]
      simp only [Outcome.ok_bind, inRange]
      rfl
  | marked _ hrest =>
      simp only [hrest, Outcome.ok_bind, inRange]
      rfl

/-- A digit, a minus sign or a point marks no exponent. -/
theorem ne_mark (negative : Bool) {whole point fraction : List Char} (hw : AllDigits whole)
    (hp : point = [] ∨ point = ['.']) (hf : AllDigits fraction) :
    ∀ c ∈ minusSign negative ++ (whole ++ point ++ fraction), c ≠ 'e' ∧ c ≠ 'E' := by
  intro c hc
  simp only [List.mem_append] at hc
  rcases hc with hc | (hc | hc) | hc
  · cases negative with
    | false => cases hc
    | true => rw [List.mem_singleton.mp hc]; decide
  · exact ⟨hw.ne hc (by decide), hw.ne hc (by decide)⟩
  · rcases hp with rfl | rfl
    · cases hc
    · rw [List.mem_singleton.mp hc]
      decide
  · exact ⟨hf.ne hc (by decide), hf.ne hc (by decide)⟩

/-- Digits without a point and an exponent. -/
theorem ofText_whole (negative : Bool) (scale : Int64) {whole tail : List Char}
    {exponent : Int} (hw : AllDigits whole) (hne : whole ≠ []) (htail : Tail tail exponent)
    (hscale : -exponent = scale.toInt) :
    ofText (minusSign negative ++ (whole ++ tail))
      = .ok ⟨signed negative (natural whole), scale⟩ := by
  have marks := ne_mark negative hw (.inl rfl) (fun c hc => (List.not_mem_nil hc).elim)
  simp only [List.append_nil] at marks
  rw [← List.append_assoc]
  exact ofText_of_parts marks (List.append_ne_nil_of_right_ne_nil _ hne) htail
    (splitPoint_whole (minusSign_ne_point negative hw)) (unscaledOfText_digits negative hw hne)
    (by omega)

/-- Digits around a point, and an exponent. -/
theorem ofText_point (negative : Bool) (scale : Int64) {whole fraction tail : List Char}
    {exponent : Int} (hw : AllDigits whole) (hne : whole ≠ []) (hf : AllDigits fraction)
    (htail : Tail tail exponent) (hscale : (fraction.length : Int) - exponent = scale.toInt) :
    ofText (minusSign negative ++ (whole ++ '.' :: fraction ++ tail))
      = .ok ⟨signed negative (natural (whole ++ fraction)), scale⟩ := by
  have marks := ne_mark negative hw (.inr rfl) hf
  have point := splitPoint_point (minusSign_ne_point negative hw) hf
  have all : AllDigits (whole ++ fraction) := hw.append hf
  have some : whole ++ fraction ≠ [] := List.append_ne_nil_of_left_ne_nil hne _
  rw [List.append_assoc, List.singleton_append] at marks
  rw [List.append_assoc] at point
  rw [← List.append_assoc]
  exact ofText_of_parts marks (by simp) htail (by rwa [List.append_assoc] at point)
    (unscaledOfText_digits negative all some) hscale

/-- The first digits and the others make up the number. -/
theorem natural_take_drop (n k : Nat) :
    natural ((digits n).take k ++ (digits n).drop k) = n := by
  rw [List.take_append_drop, Numeral.natural_digits]

/-- Scientific notation gives back the integer and the scale. -/
theorem ofText_scientific (negative : Bool) (scale : Int64) {n : Numeral}
    (hscale : -n.exponent = scale.toInt) (far : n.place < -5) :
    ofText (minusSign negative ++ n.scientific 'E')
      = .ok ⟨signed negative n.coefficient, scale⟩ := by
  have digit := allDigits_digits n.coefficient
  have first : AllDigits ((digits n.coefficient).take 1) := digit.subset (List.take_subset 1 _)
  have others : AllDigits ((digits n.coefficient).drop 1) := digit.subset (List.drop_subset 1 _)
  have nonempty : (digits n.coefficient).take 1 ≠ [] := by
    rw [Ne, List.take_eq_nil_iff]
    simp [Numeral.digits_ne_nil]
  have least := scale.le_toInt
  have most := scale.toInt_lt
  have count := Numeral.digitCount_pos n.coefficient
  have width : (((digits n.coefficient).drop 1).length : Int)
      = (digitCount n.coefficient : Int) - 1 := by
    rw [List.length_drop]
    unfold digitCount at count ⊢
    omega
  have mark : Tail ('E' :: integer (n.exponent + ((digits n.coefficient).drop 1).length))
      (n.exponent + ((digits n.coefficient).drop 1).length) := by
    apply Tail.marked (.inr rfl)
    apply exponentOfText_integer
    have small : (n.exponent + ((digits n.coefficient).drop 1).length).natAbs ≤ Nat.pow 2 63 := by
      unfold Numeral.place at far
      change _ ≤ 9223372036854775808
      omega
    exact Nat.lt_of_le_of_lt small (by decide)
  have value := natural_take_drop n.coefficient 1
  unfold Numeral.scientific
  simp only
  split
  · next single =>
      rw [single, List.append_nil] at value
      rw [single] at mark ⊢
      rw [List.append_nil]
      have read := ofText_whole negative scale first nonempty mark (by simpa using hscale)
      rwa [value] at read
  · have read := ofText_point negative scale first nonempty others mark (by omega)
    rwa [value] at read

/-- An integer with an exponent gives back the integer and the scale. -/
theorem ofText_withExponent (negative : Bool) (scale : Int64) {n : Numeral}
    (hscale : -n.exponent = scale.toInt) (pos : 0 ≤ n.exponent) :
    ofText (minusSign negative ++ withExponent n)
      = .ok ⟨signed negative n.coefficient, scale⟩ := by
  have least := scale.le_toInt
  have mark : Tail ('e' :: '+' :: integer n.exponent) n.exponent := by
    apply Tail.marked (.inl rfl)
    apply exponentOfText_plus pos
    have small : n.exponent.natAbs ≤ Nat.pow 2 63 := by
      change _ ≤ 9223372036854775808
      omega
    exact Nat.lt_of_le_of_lt small (by decide)
  have read := ofText_whole negative scale (allDigits_digits n.coefficient)
    (Numeral.digits_ne_nil _) mark hscale
  rwa [Numeral.natural_digits] at read

/-- Positional notation of an integer gives the integer, its zeros written out,
with scale zero. -/
theorem ofText_positional_whole (negative : Bool) {n : Numeral} (pos : 0 ≤ n.exponent) :
    ofText (minusSign negative ++ n.positional)
      = .ok ⟨signed negative (n.coefficient * Nat.pow 10 n.exponent.toNat), 0⟩ := by
  obtain ⟨nonempty, all, value⟩ := Numeral.positional_whole pos
  have read := ofText_whole negative 0 all nonempty (.none rfl) rfl
  rwa [List.append_nil, value] at read

/-- Positional notation with a point gives back the integer and the scale. -/
theorem ofText_positional_point (negative : Bool) (scale : Int64) {n : Numeral}
    (hscale : -n.exponent = scale.toInt) (neg : n.exponent < 0) :
    ofText (minusSign negative ++ n.positional)
      = .ok ⟨signed negative n.coefficient, scale⟩ := by
  obtain ⟨front, fraction, parts, nonempty, hw, hf, length, value⟩ :=
    Numeral.positional_point neg
  have read := ofText_point negative scale hw nonempty hf (.none rfl) (by omega)
  rwa [List.append_nil, value, ← parts] at read

/-! ## No blanks -/

/-- A decimal is written without blanks. -/
theorem solid_text (d : Decimal) : Solid d.text := by
  have magnitude (n : Numeral) : Solid (if n.place < -5 then n.scientific 'E'
      else if 15 < n.exponent then withExponent n else n.positional) := by
    split
    · exact Numeral.solid_scientific (by decide) n
    · split
      · exact solid_append.mpr ⟨(allDigits_digits n.coefficient).solid,
          solid_cons.mpr ⟨by decide, solid_cons.mpr ⟨by decide, Numeral.solid_integer _⟩⟩⟩
      · exact n.solid_positional
  unfold text
  simp only
  split
  · exact solid_cons.mpr ⟨by decide, magnitude _⟩
  · exact magnitude _

/-! ## Canonical decimals -/

/-- The text of a decimal, its sign apart. -/
theorem text_eq (d : Decimal) :
    d.text = minusSign (decide (d.unscaled < 0))
      ++ (let n : Numeral := ⟨d.unscaled.natAbs, if d.unscaled = 0 then 0 else -d.scale.toInt⟩
          if n.place < -5 then n.scientific 'E'
          else if 15 < n.exponent then withExponent n
          else n.positional) := by
  unfold text minusSign
  by_cases h : d.unscaled < 0
  · simp only [h, decide_true, if_true, List.singleton_append]
  · simp only [h, decide_false, if_false, Bool.false_eq_true, List.nil_append]

/-- Zero is its own canonical form, with scale zero. -/
theorem canonical_zero {d : Decimal} (h : d.unscaled = 0) : d.canonical = ⟨0, 0⟩ := if_pos h

/-- Up to fifteen zeros in front of the point are written out. -/
theorem canonical_whole {d : Decimal} (h : d.unscaled ≠ 0)
    (hscale : -15 ≤ d.scale.toInt ∧ d.scale.toInt ≤ 0) :
    d.canonical = ⟨d.unscaled * Nat.pow 10 (-d.scale.toInt).toNat, 0⟩ := by
  rw [canonical, if_neg h, if_pos hscale]

/-- Every other decimal is its own canonical form. -/
theorem canonical_other {d : Decimal} (h : d.unscaled ≠ 0)
    (hscale : ¬ (-15 ≤ d.scale.toInt ∧ d.scale.toInt ≤ 0)) : d.canonical = d := by
  rw [canonical, if_neg h, if_neg hscale]

/-- A sign goes into a product with a natural number. -/
theorem signed_mul (n : Int) (k : Nat) :
    signed (decide (n < 0)) (n.natAbs * k) = n * k := by
  have back := Numeral.signed_natAbs n
  unfold signed at back ⊢
  split
  · next h =>
      rw [if_pos h] at back
      rw [Int.natCast_mul, ← Int.neg_mul, back]
  · next h =>
      rw [if_neg h] at back
      rw [Int.natCast_mul, back]

/-- **Reading undoes writing.**  The text of a decimal is read as its canonical
form. -/
theorem ofText_text (d : Decimal) : ofText d.text = .ok d.canonical := by
  rw [text_eq]
  simp only
  by_cases zero : d.unscaled = 0
  · rw [canonical_zero zero, zero, if_pos rfl]
    rfl
  · have same : Decimal.mk (signed (decide (d.unscaled < 0)) d.unscaled.natAbs) d.scale = d :=
      congrArg (fun u => Decimal.mk u d.scale) (Numeral.signed_natAbs d.unscaled)
    rw [if_neg zero]
    split
    · next far =>
        have read := ofText_scientific (decide (d.unscaled < 0)) d.scale (by simp) far
        have count := Numeral.digitCount_pos d.unscaled.natAbs
        have other : d.canonical = d := by
          apply canonical_other zero
          simp only [Numeral.place] at far
          omega
        rw [read, other]
        exact congrArg Except.ok same
    · split
      · next long =>
          have read := ofText_withExponent (decide (d.unscaled < 0)) d.scale
            (n := ⟨d.unscaled.natAbs, -d.scale.toInt⟩) (by simp) (by simp only; omega)
          have other : d.canonical = d := by
            apply canonical_other zero
            omega
          rw [read, other]
          exact congrArg Except.ok same
      · next short =>
          by_cases whole : d.scale.toInt ≤ 0
          · have read := ofText_positional_whole (decide (d.unscaled < 0))
              (n := ⟨d.unscaled.natAbs, -d.scale.toInt⟩) (by simp only; omega)
            rw [read, canonical_whole zero (by omega), signed_mul]
          · have read := ofText_positional_point (decide (d.unscaled < 0)) d.scale
              (n := ⟨d.unscaled.natAbs, -d.scale.toInt⟩) (by simp) (by simp only; omega)
            rw [read, canonical_other zero (by omega)]
            exact congrArg Except.ok same

/-- Positional notation of an integer, its zeros written out. -/
theorem text_whole {d : Decimal} (h : d.unscaled ≠ 0)
    (hscale : -15 ≤ d.scale.toInt ∧ d.scale.toInt ≤ 0) :
    d.text = minusSign (decide (d.unscaled < 0))
      ++ digits (d.unscaled.natAbs * Nat.pow 10 (-d.scale.toInt).toNat) := by
  have count := Numeral.digitCount_pos d.unscaled.natAbs
  have near : ¬ (⟨d.unscaled.natAbs, -d.scale.toInt⟩ : Numeral).place < -5 := by
    simp only [Numeral.place]
    omega
  rw [text_eq, Numeral.digits_mul_pow (Int.natAbs_ne_zero.mpr h)]
  simp only [if_neg h, if_neg near]
  rw [if_neg (by omega), Numeral.positional, if_pos (by simp only; omega)]

/-- A positive factor keeps the sign of an integer. -/
theorem mul_natCast_neg_iff (n : Int) {k : Nat} (h : 0 < k) : n * k < 0 ↔ n < 0 := by
  constructor
  · intro product
    apply Int.not_le.mp
    intro nonneg
    exact absurd product (Int.not_lt.mpr (Int.mul_nonneg nonneg (by omega)))
  · intro negative
    exact Int.mul_neg_of_neg_of_pos negative (by omega)

/-- The canonical form of a decimal has the text of the decimal. -/
theorem text_canonical (d : Decimal) : d.canonical.text = d.text := by
  by_cases zero : d.unscaled = 0
  · rw [canonical_zero zero, text_eq d, text_eq ⟨0, 0⟩, zero]
    rfl
  · by_cases whole : -15 ≤ d.scale.toInt ∧ d.scale.toInt ≤ 0
    · have pos : 0 < Nat.pow 10 (-d.scale.toInt).toNat := Nat.pow_pos (by decide)
      have ne : d.unscaled * (Nat.pow 10 (-d.scale.toInt).toNat : Nat) ≠ 0 :=
        Int.mul_ne_zero zero (by omega)
      have sign := mul_natCast_neg_iff d.unscaled pos
      have scaleZero : (0 : Int64).toInt = 0 := by decide
      rw [canonical_whole zero whole, text_whole zero whole,
        text_whole ne (by rw [scaleZero]; decide)]
      simp only [sign, Int.natAbs_mul, Int.natAbs_natCast, scaleZero]
      simp
    · rw [canonical_other zero whole]

/-- Canonical forms are canonical. -/
theorem canonical_canonical (d : Decimal) : d.canonical.canonical = d.canonical := by
  have again := ofText_text d.canonical
  rw [text_canonical, ofText_text] at again
  exact (Except.ok.inj again).symm

end ScanFilter.Decimal
