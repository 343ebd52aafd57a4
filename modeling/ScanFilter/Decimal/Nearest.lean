import ScanFilter.Binary64.Leading
import ScanFilter.Binary64.Shortest
import ScanFilter.Decimal
/-!
# Between decimals and doubles

A finite double becomes the decimal that its shortest text denotes.  A decimal of
scale zero becomes a double by its leading bits.  Any other decimal becomes one
in steps: a long integer is first cut to about 25 digits, then a decimal with
places after the point is rounded to nearest, and one without is the product of
its integer, rounded by its leading bits, and a power of ten.  A scale that no
32-bit exponent can hold makes the result infinite.

* `ofBinary64?` — the decimal of a finite double;
* `toBinary64` — the double of a decimal.
-/

namespace ScanFilter.Decimal

open Numeral (digitCount)

/-- The decimal of a numeral whose exponent is in range: an integer when the
exponent is not negative. -/
def ofNumeral (negative : Bool) (n : Numeral) : Decimal :=
  ⟨Numeral.signed negative (n.coefficient * Nat.pow 10 n.exponent.toNat),
    Int64.ofNat (-n.exponent).toNat⟩

/-- The decimal that the shortest text of a finite double denotes. -/
def ofBinary64? (x : Binary64) : Option Decimal :=
  if x.isFinite then some (ofNumeral x.isNegative x.shortest) else none

/-- How many blocks of nineteen digits are cut from an integer of this many
bits.  About 25 digits stay. -/
def surplusBlocks (magnitude : Nat) : Nat :=
  let bits := if magnitude = 0 then 0 else magnitude.log2 + 1
  (digitCount (1 <<< (bits + 1)) - 1 - 25) / 19

/-- The double of a decimal. -/
def toBinary64 (d : Decimal) : Binary64 :=
  let negative := decide (d.unscaled < 0)
  if d.unscaled = 0 then .zero false
  else if d.scale = 0 then .ofLeading negative d.unscaled.natAbs
  else
    let blocks := surplusBlocks d.unscaled.natAbs
    let magnitude := d.unscaled.natAbs / Nat.pow 10 (19 * blocks)
    let scale := d.scale.toInt - 19 * blocks
    if scale ≤ -0x80000000 ∨ 0x80000000 ≤ scale then .infinity negative
    else if 0 < scale then .ofNumeral negative ⟨magnitude, -scale⟩
    else
      (Binary64.ofLeading negative magnitude).mul
        ((Binary64.ofInt 10).power (-scale).toNat)

end ScanFilter.Decimal
