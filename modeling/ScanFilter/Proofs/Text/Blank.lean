import ScanFilter.Proofs.Text.Numeral
import ScanFilter.Text.Blank
/-!
# Blanks around a text

Trimming takes a text for blanks, a core, and blanks, and leaves the core.  A text is
**solid** when no character of it is blank, and trimming leaves it alone.  Whatever is
written of a number, in any notation, is solid: it is made of digits, signs, a point and
the mark of an exponent.

* `trim_between`, `exists_trim` — what trimming leaves of a text;
* `Solid.trim` — a solid text is left alone;
* `solid_integer`, `solid_positional`, `solid_scientific` — numbers are solid.
-/

namespace ScanFilter

namespace Blank

/-- A text of blanks. -/
def Blanks (cs : List Char) : Prop := ∀ c ∈ cs, isBlank c = true

/-- A text without blanks. -/
def Solid (cs : List Char) : Prop := ∀ c ∈ cs, isBlank c = false

instance (cs : List Char) : Decidable (Solid cs) :=
  List.decidableBAll (isBlank · = false) cs

theorem trimStart_append {before : List Char} (h : Blanks before) (cs : List Char) :
    trimStart (before ++ cs) = trimStart cs :=
  List.dropWhile_append_of_pos h

theorem Blanks.reverse {cs : List Char} (h : Blanks cs) : Blanks cs.reverse :=
  fun c hc => h c (List.mem_reverse.mp hc)

theorem solid_append {cs ds : List Char} : Solid (cs ++ ds) ↔ Solid cs ∧ Solid ds :=
  List.forall_mem_append

theorem solid_cons {c : Char} {cs : List Char} :
    Solid (c :: cs) ↔ isBlank c = false ∧ Solid cs :=
  List.forall_mem_cons

/-- Trimming leaves a text without blanks alone. -/
theorem Solid.trim {cs : List Char} (h : Solid cs) : Blank.trim cs = cs :=
  trim_eq_self (fun c hc => h c (List.mem_of_mem_head? hc))
    (fun c hc => h c (List.mem_of_mem_getLast? hc))

/-- Trimming leaves what stands between blanks. -/
theorem trim_between {before core after : List Char} (hb : Blanks before)
    (ha : Blanks after) (hc : core ≠ []) (solid : Solid core) :
    trim (before ++ core ++ after) = core := by
  have front : trimStart (before ++ core ++ after) = core ++ after := by
    obtain ⟨c, cs, rfl⟩ := List.exists_cons_of_ne_nil hc
    rw [List.append_assoc, trimStart_append hb]
    exact trimStart_cons (cs ++ after) (solid c List.mem_cons_self)
  have back : trimStart (core ++ after).reverse = trimStart core.reverse := by
    rw [List.reverse_append, trimStart_append ha.reverse]
  calc trim (before ++ core ++ after)
      = (trimStart core.reverse).reverse := by rw [trim, front, back]
    _ = (trimStart (trimStart core).reverse).reverse := by
        obtain ⟨c, cs, rfl⟩ := List.exists_cons_of_ne_nil hc
        rw [trimStart_cons cs (solid c List.mem_cons_self)]
    _ = core := solid.trim

/-- A text starts with blanks, up to where trimming its start begins. -/
theorem exists_trimStart (cs : List Char) :
    ∃ before, cs = before ++ trimStart cs ∧ Blanks before :=
  ⟨cs.takeWhile isBlank, List.takeWhile_append_dropWhile.symm,
    fun c hc => List.all_eq_true.mp List.all_takeWhile c hc⟩

/-- A text is blanks, what trimming leaves of it, and blanks. -/
theorem exists_trim (cs : List Char) :
    ∃ before after, cs = before ++ trim cs ++ after ∧ Blanks before ∧ Blanks after := by
  obtain ⟨before, parts, hb⟩ := exists_trimStart cs
  obtain ⟨after, parts', ha⟩ := exists_trimStart (trimStart cs).reverse
  have rest : trimStart cs = trim cs ++ after.reverse := by
    rw [← List.reverse_inj, parts', trim, List.reverse_append, List.reverse_reverse,
      List.reverse_reverse]
  refine ⟨before, after.reverse, ?_, hb, ha.reverse⟩
  rw [List.append_assoc, ← rest]
  exact parts

/-- No digit is blank. -/
theorem isBlank_of_isDigit {c : Char} (h : c.isDigit = true) : isBlank c = false := by
  have range : 48 ≤ c.toNat ∧ c.toNat ≤ 57 := by
    simpa [Char.isDigit, UInt32.le_iff_toNat_le] using h
  have low : 32 < c.toNat := by omega
  have high : c.toNat < 133 := by omega
  unfold isBlank
  simp only [Bool.or_eq_false_iff, Bool.and_eq_false_iff, decide_eq_false_iff_not,
    beq_eq_false_iff_ne]
  omega

end Blank

namespace Numeral

open Blank (Solid solid_append solid_cons)

theorem AllDigits.solid {cs : List Char} (h : AllDigits cs) : Solid cs :=
  fun c hc => Blank.isBlank_of_isDigit (h c hc)

theorem solid_integer (n : Int) : Solid (integer n) := by
  have solid := (allDigits_digits n.natAbs).solid
  unfold integer
  split
  · exact solid_cons.mpr ⟨by decide, solid⟩
  · exact solid

theorem solid_positional (n : Numeral) : Solid n.positional := by
  by_cases whole : 0 ≤ n.exponent
  · exact (positional_whole whole).2.1.solid
  · obtain ⟨front, fraction, parts, _, digits, digits', _⟩ :=
      positional_point (Int.not_le.mp whole)
    rw [parts, solid_append, solid_cons]
    exact ⟨digits.solid, by decide, digits'.solid⟩

theorem solid_scientific {mark : Char} (h : Blank.isBlank mark = false) (n : Numeral) :
    Solid (n.scientific mark) := by
  have all := allDigits_digits n.coefficient
  have others := (all.subset (List.drop_subset 1 _)).solid
  unfold scientific
  rw [solid_append, solid_append, solid_cons]
  refine ⟨⟨(all.subset (List.take_subset 1 _)).solid, ?_⟩, h, solid_integer _⟩
  split
  · exact fun c hc => (List.not_mem_nil hc).elim
  · exact solid_cons.mpr ⟨by decide, others⟩

end Numeral

end ScanFilter
