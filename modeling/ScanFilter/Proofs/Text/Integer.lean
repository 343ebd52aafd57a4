import ScanFilter.Proofs.Text.Blank
/-!
# Texts that denote an integer

A text **denotes** an integer when it is blanks, a sign or none, at least one digit, and
blanks again.  Nothing else is read: what is left of a text between the blanks at its
ends is a sign and digits, or the text denotes nothing.

* `readInteger?_eq_some_iff` — an integer is read from a sign and digits alone;
* `readInteger?_trim` — the integers that are read from a text are those it denotes;
* `spells_integer` — the text of an integer spells it.
-/

namespace ScanFilter

namespace Numeral

open Blank (Blanks)

/-- A sign or none, and what it multiplies a number by. -/
inductive Sign : List Char → Int → Prop
  | none : Sign [] 1
  | plus : Sign ['+'] 1
  | minus : Sign ['-'] (-1)

/-- Whether a text is a sign or none and at least one digit, and which integer these
denote. -/
def Spells (cs : List Char) (n : Int) : Prop :=
  ∃ sign unit digits, cs = sign ++ digits ∧ Sign sign unit ∧ digits ≠ [] ∧
    AllDigits digits ∧ n = unit * natural digits

/-- Whether a text spells an integer between blanks. -/
def Denotes (cs : List Char) (n : Int) : Prop :=
  ∃ before core after, cs = before ++ core ++ after ∧ Blanks before ∧ Blanks after ∧
    Spells core n

theorem Spells.ne_nil {cs : List Char} {n : Int} (h : Spells cs n) : cs ≠ [] := by
  obtain ⟨sign, unit, digits, rfl, _, nonempty, _⟩ := h
  intro empty
  exact nonempty (List.append_eq_nil_iff.mp empty).2

/-- Neither a sign nor a digit is blank. -/
theorem Spells.solid {cs : List Char} {n : Int} (h : Spells cs n) : Blank.Solid cs := by
  obtain ⟨sign, unit, digits, rfl, signed, _, all, _⟩ := h
  intro c hc
  rcases List.mem_append.mp hc with hc | hc
  · rcases signed with _ | _ | _
    · cases hc
    · rw [List.mem_singleton.mp hc]
      decide
    · rw [List.mem_singleton.mp hc]
      decide
  · exact Blank.isBlank_of_isDigit (all c hc)

theorem Spells.denotes {cs : List Char} {n : Int} (h : Spells cs n) : Denotes cs n :=
  ⟨[], cs, [], (List.append_nil cs).symm, List.forall_mem_nil _, List.forall_mem_nil _, h⟩

/-- What is split off a text is a sign or none. -/
theorem exists_sign (cs : List Char) : ∃ sign, cs = sign ++ (splitSign cs).2 ∧
    Sign sign (if (splitSign cs).1 then -1 else 1) := by
  unfold splitSign
  split
  · exact ⟨['+'], rfl, .plus⟩
  · exact ⟨['-'], rfl, .minus⟩
  · exact ⟨[], rfl, .none⟩

/-- Of digits behind a sign or none, the sign is split off. -/
theorem Sign.splitSign {sign digits : List Char} {unit : Int} (h : Sign sign unit)
    (all : AllDigits digits) :
    Numeral.splitSign (sign ++ digits) = (decide (unit < 0), digits) := by
  rcases h with _ | _ | _
  · exact AllDigits.splitSign all
  · rfl
  · rfl

/-- A number with its sign is a unit times the number. -/
theorem signed_eq_mul (negative : Bool) (n : Nat) :
    signed negative n = (if negative then -1 else 1) * (n : Int) := by
  unfold signed
  split <;> omega

/-- An integer is read from a sign and digits, and from nothing else. -/
theorem readInteger?_eq_some_iff {cs : List Char} {n : Int} :
    readInteger? cs = some n ↔ Spells cs n := by
  constructor
  · intro read
    obtain ⟨sign, parts, signed⟩ := exists_sign cs
    unfold readInteger? at read
    simp only at read
    split at read
    · next found =>
        cases read
        exact ⟨sign, _, _, parts, signed, found.1, List.all_eq_true.mp found.2,
          signed_eq_mul ..⟩
    · cases read
  · rintro ⟨sign, unit, digits, rfl, signed, nonempty, all, rfl⟩
    have allDigits : digits.all Char.isDigit = true := List.all_eq_true.mpr all
    unfold readInteger?
    simp only [signed.splitSign all]
    rw [if_pos ⟨nonempty, allDigits⟩, signed_eq_mul]
    rcases signed with _ | _ | _ <;> rfl

/-- What is read of a text without the blanks at its ends is what the text denotes. -/
theorem readInteger?_trim {cs : List Char} {n : Int} :
    readInteger? (Blank.trim cs) = some n ↔ Denotes cs n := by
  rw [readInteger?_eq_some_iff]
  constructor
  · intro spells
    obtain ⟨before, after, parts, hb, ha⟩ := Blank.exists_trim cs
    exact ⟨before, Blank.trim cs, after, parts, hb, ha, spells⟩
  · rintro ⟨before, core, after, rfl, hb, ha, spells⟩
    rwa [Blank.trim_between hb ha spells.ne_nil spells.solid]

/-- The text of an integer spells it. -/
theorem spells_integer (n : Int) : Spells (integer n) n := by
  refine readInteger?_eq_some_iff.mp ?_
  have all : (digits n.natAbs).all Char.isDigit = true :=
    List.all_eq_true.mpr (allDigits_digits n.natAbs)
  unfold readInteger?
  simp only [splitSign_integer]
  rw [if_pos ⟨digits_ne_nil n.natAbs, all⟩, natural_digits, signed_natAbs]

end Numeral

end ScanFilter
