import ScanFilter.Binary64.Rounding
/-!
# The shortest decimal of a double

Among the decimals that round to a given double, the shortest one has the
fewest significant digits, and of those it is the nearest to the double; of two
equally near ones it is the larger.  A grid of decimals `10 ^ e` holds a decimal
that rounds to the double exactly when one of the double's two neighbours on
that grid does, so the search looks at two candidates for each count of digits.

* `readsBack_of_onGrid?` — a candidate that the search accepts rounds back;
* `readsBack_candidate` — so does the result of the search, granted that the
  exact decimal does.
-/

namespace ScanFilter

namespace Binary64

open Numeral

/-- The absolute value of a finite double as a decimal, every digit of it. -/
def exactNumeral (x : Binary64) : Numeral :=
  if 0 ≤ x.exponent then ⟨x.significand <<< x.exponent.toNat, 0⟩
  else ⟨x.significand * Nat.pow 5 (-x.exponent).toNat, x.exponent⟩

/-- The place `p` of the first digit of a positive rational:
`10 ^ (p - 1) ≤ num / den < 10 ^ p`. -/
def decimalPlace (num den : Nat) : Int :=
  if den ≤ num then digitCount (num / den)
  else 1 - (digitCount ((den - 1) / num) : Int)

/-- Whether a decimal rounds to the absolute value of a double. -/
def readsBack (x : Binary64) (n : Numeral) : Bool :=
  (ofNumeral false n).magnitude == x.magnitude

/-- The decimal on the grid `10 ^ e` that is nearest to a finite double among
those that round to it; of two equally near ones the larger. -/
def onGrid? (x : Binary64) (e : Int) : Option Numeral :=
  let num := x.ratio.1 * Nat.pow 10 (-e).toNat
  let den := x.ratio.2 * Nat.pow 10 e.toNat
  let below : Numeral := ⟨num / den, e⟩
  let above : Numeral := ⟨num / den + 1, e⟩
  if x.readsBack below && (2 * (num % den) < den || !x.readsBack above) then
    some below
  else if x.readsBack above then some above
  else none

/-- A decimal that rounds to a finite double other than zero and has as few
digits as any.  Seventeen digits are always enough; the exact decimal stands
behind the search. -/
def candidate (x : Binary64) : Numeral :=
  let place := decimalPlace x.ratio.1 x.ratio.2
  ((List.range 17).findSome? fun (i : Nat) => x.onGrid? (place - 1 - i)).getD
    x.exactNumeral

/-- The shortest decimal of a finite double. -/
def shortest (x : Binary64) : Numeral :=
  if x.magnitude = 0 then ⟨0, 0⟩ else x.candidate.trim

/-- A candidate that the search accepts rounds back. -/
theorem readsBack_of_onGrid? {x : Binary64} {e : Int} {n : Numeral}
    (h : x.onGrid? e = some n) : x.readsBack n = true := by
  unfold onGrid? at h
  simp only at h
  split at h
  · next hit =>
      cases h
      exact (Bool.and_eq_true_iff.mp hit).1
  · split at h
    · next hit =>
        cases h
        exact hit
    · cases h

/-- The decimal that the search gives rounds back, granted that the exact one
does. -/
theorem readsBack_candidate {x : Binary64} (h : x.readsBack x.exactNumeral = true) :
    x.readsBack x.candidate = true := by
  unfold candidate
  simp only
  cases hs : (List.range 17).findSome? fun (i : Nat) =>
      x.onGrid? (decimalPlace x.ratio.1 x.ratio.2 - 1 - i) with
  | none => exact h
  | some n =>
      obtain ⟨i, _, hi⟩ := List.exists_of_findSome?_eq_some hs
      exact readsBack_of_onGrid? hi

end Binary64

end ScanFilter
