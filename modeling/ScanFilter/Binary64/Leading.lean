import ScanFilter.Binary64.Rounding
import ScanFilter.Integer
/-!
# Rounding an integer by its leading bits

An integer of any size is rounded by its leading 64 bits, and what lies below
them only decides a tie: when something is found there, the last of the leading
bits is set, so that the tie goes up.  Not every bit is looked at.  When the top
limb has `t` bits, each limb below the leading bits counts by its lowest `t` bits
alone, so an integer of more than two limbs can be taken for a tie although it
lies a little above one.

* `ofLeading` — the double of an integer by its leading bits;
* `leading_of_lt`, `ofLeading_of_lt` — an integer of 64 bits leads by all of its
  bits, and it is rounded to the nearest double.
-/

namespace ScanFilter.Binary64

/-- How many bits lie below the leading 64. -/
def surplusBits (n : Nat) : Nat := n.log2 - 63

/-- Whether something is found below the leading 64 bits. -/
def hasResidue (n : Nat) : Bool :=
  (limbs (n % (1 <<< surplusBits n))).any fun limb =>
    limb % (1 <<< (n.log2 % 64 + 1)) != 0

/-- The leading 64 bits; the last one is set when something is found below. -/
def leading (n : Nat) : Nat :=
  let kept := n >>> surplusBits n
  if kept % 2 = 0 ∧ hasResidue n then kept + 1 else kept

/-- The double of an integer by its leading bits, with a given sign. -/
def ofLeading (negative : Bool) (n : Nat) : Binary64 :=
  ofRatio negative (leading n <<< surplusBits n) 1

/-- An integer of 64 bits has no bits below the leading ones. -/
theorem surplusBits_of_lt {n : Nat} (h : n < 0x10000000000000000) :
    surplusBits n = 0 := by
  by_cases zero : n = 0
  · subst zero
    rfl
  · have small : n.log2 < 64 := (Nat.log2_lt zero).mpr h
    unfold surplusBits
    omega

/-- An integer of 64 bits leads by all of its bits. -/
theorem leading_of_lt {n : Nat} (h : n < 0x10000000000000000) : leading n = n := by
  simp [leading, hasResidue, surplusBits_of_lt h, Nat.mod_one, limbs_zero]

/-- An integer of 64 bits is rounded to the nearest double. -/
theorem ofLeading_of_lt (negative : Bool) {n : Nat} (h : n < 0x10000000000000000) :
    ofLeading negative n = ofRatio negative n 1 := by
  simp [ofLeading, leading_of_lt h, surplusBits_of_lt h]

end ScanFilter.Binary64
