import ScanFilter.Integer
import ScanFilter.Text.Numeral
/-!
# Exact decimals

A decimal is an integer of any size and a 64-bit scale; it stands for
`unscaled · 10 ^ -scale`.  The same number has many forms (0.3 and 0.30), and
comparison sees the number, not the form.  Scales may be huge, so two numbers of
the same sign are first compared by the place of their first digit, and only
numbers that begin at the same place are brought to one scale.

* `compare_swap` — exchanging two decimals turns their comparison around.
-/

namespace ScanFilter

/-- The number `unscaled · 10 ^ -scale`. -/
structure Decimal where
  unscaled : Int
  scale : Int64
  deriving DecidableEq

namespace Decimal

open Numeral (digitCount)

/-- An integer as a decimal of scale zero. -/
def ofInt (n : Int) : Decimal := ⟨n, 0⟩

/-- The place of the first digit, one place in front of the point being place 1:
a decimal other than zero lies in `10 ^ (p - 1) … 10 ^ p`, its sign apart. -/
def place (d : Decimal) : Int := digitCount d.unscaled.natAbs - d.scale.toInt

/-- How the absolute values of two decimals other than zero compare. -/
def compareAbs (a b : Decimal) : Ordering :=
  (compare a.place b.place).then <|
    compare (a.unscaled.natAbs * Nat.pow 10 (b.scale.toInt - a.scale.toInt).toNat)
      (b.unscaled.natAbs * Nat.pow 10 (a.scale.toInt - b.scale.toInt).toNat)

/-- How the numbers of two decimals compare. -/
protected def compare (a b : Decimal) : Ordering :=
  (compare a.unscaled.sign b.unscaled.sign).then <|
    if a.unscaled = 0 then .eq
    else if a.unscaled < 0 then b.compareAbs a
    else a.compareAbs b

/-- Exchanging two decimals turns the comparison of their absolute values
around. -/
theorem compareAbs_swap (a b : Decimal) : b.compareAbs a = (a.compareAbs b).swap := by
  simp only [compareAbs, Ordering.swap_then, ← Std.OrientedCmp.eq_swap]

/-- Exchanging two decimals turns their comparison around. -/
theorem compare_swap (a b : Decimal) : b.compare a = (a.compare b).swap := by
  have sign : ∀ n : Int, n < 0 ∧ n.sign = -1 ∨ n = 0 ∧ n.sign = 0 ∨ 0 < n ∧ n.sign = 1 := by
    intro n
    rcases Int.lt_trichotomy n 0 with h | h | h
    · exact .inl ⟨h, Int.sign_eq_neg_one_of_neg h⟩
    · exact .inr (.inl ⟨h, by rw [h]; rfl⟩)
    · exact .inr (.inr ⟨h, Int.sign_eq_one_of_pos h⟩)
  have turn := compareAbs_swap a b
  have flip : compare b.unscaled.sign a.unscaled.sign
      = (compare a.unscaled.sign b.unscaled.sign).swap := Std.OrientedCmp.eq_swap
  unfold Decimal.compare
  rw [flip]
  rcases sign a.unscaled with ⟨ha, sa⟩ | ⟨ha, sa⟩ | ⟨ha, sa⟩ <;>
    rcases sign b.unscaled with ⟨hb, sb⟩ | ⟨hb, sb⟩ | ⟨hb, sb⟩ <;>
    rw [sa, sb] <;>
    simp [ha, hb, turn, Ordering.then, Int.ne_of_lt, Int.ne_of_gt, Int.lt_asymm]

end Decimal

end ScanFilter
