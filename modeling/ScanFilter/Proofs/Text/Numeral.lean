import ScanFilter.Text.Numeral
/-!
# Digits of natural numbers

A row of digits denotes a number whatever zeros stand in front of it, and a zero
at its end multiplies the number by ten.  Reading an integer undoes writing it.

* `digits_mul_pow` — a power of ten appends zeros;
* `natural_append_zeros`, `natural_zeros_append` — zeros at either end;
* `lt_pow_digitCount`, `pow_le_of_digitCount`, `digitCount_le` — the count of digits places a
  number between two powers of ten;
* `positional_whole`, `positional_point` — what positional notation consists of.
-/

namespace ScanFilter.Numeral

/-- Every character is an ASCII digit. -/
def AllDigits (cs : List Char) : Prop := ∀ c ∈ cs, c.isDigit = true

/-- A number is written in digits. -/
theorem allDigits_digits (n : Nat) : AllDigits (digits n) := by
  intro c hc
  exact Nat.isDigit_of_mem_toDigits (by decide) (by decide) hc

/-- Zeros are digits. -/
theorem allDigits_zeros (k : Nat) : AllDigits (List.replicate k '0') := by
  intro c hc
  rw [List.eq_of_mem_replicate hc]
  rfl

/-- Two rows of digits make one. -/
theorem AllDigits.append {cs ds : List Char} (hc : AllDigits cs) (hd : AllDigits ds) :
    AllDigits (cs ++ ds) := by
  intro c h
  rcases List.mem_append.mp h with h | h
  · exact hc c h
  · exact hd c h

/-- Part of a row of digits is one. -/
theorem AllDigits.subset {cs ds : List Char} (hd : AllDigits ds) (h : cs ⊆ ds) :
    AllDigits cs := fun c hc => hd c (h hc)

/-- A digit differs from every character that is none. -/
theorem AllDigits.ne {cs : List Char} (h : AllDigits cs) {c d : Char} (hc : c ∈ cs)
    (hd : d.isDigit = false) : c ≠ d := by
  intro same
  have digit := h c hc
  rw [same, hd] at digit
  cases digit

/-- Zeros at the end multiply by a power of ten. -/
theorem natural_append_zeros (cs : List Char) (k : Nat) :
    natural (cs ++ List.replicate k '0') = natural cs * Nat.pow 10 k := by
  unfold natural
  rw [Nat.ofDigitChars_append, Nat.ofDigitChars_replicate_zero, Nat.mul_comm]
  rfl

/-- Zeros in front do not count. -/
theorem natural_zeros_append (k : Nat) (cs : List Char) :
    natural (List.replicate k '0' ++ cs) = natural cs := by
  unfold natural
  rw [Nat.ofDigitChars_append, Nat.ofDigitChars_replicate_zero, Nat.mul_zero]

/-- A number other than zero, multiplied by ten, has one more zero at its end. -/
theorem digits_mul_ten {n : Nat} (h : n ≠ 0) : digits (n * 10) = digits n ++ ['0'] := by
  have step := Nat.toDigits_append_toDigits (b := 10) (n := n) (d := 0) (by decide)
    (Nat.pos_of_ne_zero h) (by decide)
  rw [Nat.toDigits_zero, Nat.add_zero] at step
  rw [digits, digits, Nat.mul_comm, step]

/-- A number other than zero, multiplied by a power of ten, has so many zeros more
at its end. -/
theorem digits_mul_pow {n : Nat} (h : n ≠ 0) (k : Nat) :
    digits (n * Nat.pow 10 k) = digits n ++ List.replicate k '0' := by
  induction k with
  | zero => simp
  | succ k ih =>
      have step : n * Nat.pow 10 (k + 1) = n * Nat.pow 10 k * 10 := by
        rw [Nat.mul_assoc]
        rfl
      have pos : n * Nat.pow 10 k ≠ 0 :=
        Nat.mul_ne_zero h (Nat.pos_iff_ne_zero.mp (Nat.pow_pos (by decide)))
      rw [step, digits_mul_ten pos, ih, List.append_assoc, ← List.replicate_succ']

/-- There is at least one digit. -/
theorem digitCount_pos (n : Nat) : 0 < digitCount n := Nat.length_toDigits_pos

/-- A number lies below the power of ten of its count of digits. -/
theorem lt_pow_digitCount (n : Nat) : n < Nat.pow 10 (digitCount n) :=
  (Nat.length_toDigits_le_iff (by decide) (digitCount_pos n)).mp (Nat.le_refl _)

/-- A number other than zero reaches the power of ten below its count of
digits. -/
theorem pow_le_of_digitCount {n : Nat} (h : n ≠ 0) :
    Nat.pow 10 (digitCount n - 1) ≤ n := by
  cases hk : digitCount n - 1 with
  | zero => exact Nat.pos_of_ne_zero h
  | succ k =>
      apply Nat.le_of_not_lt
      intro small
      have short : digitCount n ≤ k + 1 :=
        (Nat.length_toDigits_le_iff (by decide) (Nat.succ_pos k)).mpr small
      omega

/-- A number below a power of ten has no more digits than its exponent. -/
theorem digitCount_le {n k : Nat} (positive : 0 < k) (h : n < Nat.pow 10 k) :
    digitCount n ≤ k :=
  (Nat.length_toDigits_le_iff (by decide) positive).mpr h

/-- A text that begins with a digit has no sign in front of it. -/
theorem splitSign_of_digit {c : Char} (h : c.isDigit = true) (cs : List Char) :
    splitSign (c :: cs) = (false, c :: cs) := by
  unfold splitSign
  split
  · next same =>
      cases same
      cases h
  · next same =>
      cases same
      cases h
  · rfl

/-- Digits have no sign in front of them. -/
theorem AllDigits.splitSign {ds : List Char} (h : AllDigits ds) :
    splitSign ds = (false, ds) := by
  cases ds with
  | nil => rfl
  | cons c cs => exact splitSign_of_digit (h c List.mem_cons_self) cs

theorem splitSign_digits (n : Nat) : splitSign (digits n) = (false, digits n) :=
  (allDigits_digits n).splitSign

/-- The text of an integer is its sign and the digits of its absolute value. -/
theorem splitSign_integer (n : Int) :
    splitSign (integer n) = (decide (n < 0), digits n.natAbs) := by
  unfold integer
  split
  · next h => simp [splitSign, h]
  · next h => rw [splitSign_digits, decide_eq_false h]

/-- An absolute value with its sign is the integer. -/
theorem signed_natAbs (n : Int) : signed (decide (n < 0)) n.natAbs = n := by
  unfold signed
  by_cases h : n < 0
  · simp only [h, decide_true, if_true]
    omega
  · simp only [h, decide_false, Bool.false_eq_true, if_false]
    omega

/-! ## Positional notation -/

/-- Positional notation of an integer is a row of digits that denotes it. -/
theorem positional_whole {n : Numeral} (whole : 0 ≤ n.exponent) :
    n.positional ≠ [] ∧ AllDigits n.positional ∧
      natural n.positional = n.coefficient * Nat.pow 10 n.exponent.toNat := by
  unfold positional
  simp only [if_pos whole]
  refine ⟨List.append_ne_nil_of_left_ne_nil (digits_ne_nil _) _,
    (allDigits_digits _).append (allDigits_zeros _), ?_⟩
  rw [natural_append_zeros, natural_digits]

/-- Positional notation of any other number is a point between rows of digits, as many of
them behind the point as the exponent says, that denote the coefficient together. -/
theorem positional_point {n : Numeral} (broken : n.exponent < 0) :
    ∃ front fraction, n.positional = front ++ '.' :: fraction ∧ front ≠ [] ∧
      AllDigits front ∧ AllDigits fraction ∧ (fraction.length : Int) = -n.exponent ∧
      natural (front ++ fraction) = n.coefficient := by
  have all := allDigits_digits n.coefficient
  unfold positional
  simp only [if_neg (Int.not_le.mpr broken)]
  split
  · next inside =>
      refine ⟨_, _, rfl, ?_, all.subset (List.take_subset ..), all.subset (List.drop_subset ..),
        ?_, ?_⟩
      · rw [Ne, List.take_eq_nil_iff]
        simp only [digits_ne_nil, or_false]
        omega
      · rw [List.length_drop]
        omega
      · rw [List.take_append_drop, natural_digits]
  · next outside =>
      let zeros := List.replicate ((-n.exponent).toNat - (digits n.coefficient).length) '0'
      refine ⟨['0'], zeros ++ digits n.coefficient, rfl, List.cons_ne_nil _ _, allDigits_zeros 1,
        (allDigits_zeros _).append all, ?_, ?_⟩
      · rw [List.length_append, List.length_replicate]
        omega
      · rw [← List.replicate_one, natural_zeros_append, natural_zeros_append, natural_digits]

/-- Positional notation begins with a digit. -/
theorem exists_cons_positional (n : Numeral) :
    ∃ c cs, n.positional = c :: cs ∧ c.isDigit = true := by
  have first {ds : List Char} (nonempty : ds ≠ []) (all : AllDigits ds) :
      ∃ c cs, ds = c :: cs ∧ c.isDigit = true := by
    obtain ⟨c, cs, rfl⟩ := List.exists_cons_of_ne_nil nonempty
    exact ⟨c, cs, rfl, all c List.mem_cons_self⟩
  by_cases whole : 0 ≤ n.exponent
  · obtain ⟨nonempty, all, _⟩ := positional_whole whole
    exact first nonempty all
  · obtain ⟨front, fraction, parts, nonempty, all, _⟩ :=
      positional_point (Int.not_le.mp whole)
    obtain ⟨c, cs, rfl, digit⟩ := first nonempty all
    exact ⟨c, _, parts, digit⟩

end ScanFilter.Numeral
