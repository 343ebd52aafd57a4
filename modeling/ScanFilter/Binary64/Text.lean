import ScanFilter.Binary64.Shortest
/-!
# Doubles as text

A finite double is written with the digits of its shortest decimal.  Plain text
is positional and never has an exponent.  Marked text shows that a number is no
integer type: it always has a point or an exponent, and it has an exponent for
numbers from `10 ^ 16` on and for numbers below `10 ^ -4`.

* `text` and `markedText` — the two forms;
* `ofText?` — an optional sign, then a name of infinity or of NaN in any case,
  or digits with at most one point and an optional exponent.
-/

namespace ScanFilter

/-- Whether two texts are equal when the case of ASCII letters is ignored. -/
def LetterCase.equalIgnoringCase (a b : List Char) : Bool :=
  a.map Char.toLower == b.map Char.toLower

namespace Binary64

open Numeral (splitSign)
open LetterCase (equalIgnoringCase)

/-- A text with a minus sign in front when the double is negative. -/
def withSign (x : Binary64) (cs : List Char) : List Char :=
  if x.isNegative then '-' :: cs else cs

/-- The text of a double that is not finite, if it is none. -/
def specialText? (x : Binary64) : Option (List Char) :=
  if x.isNaN then some ['N', 'a', 'N']
  else if x.isFinite then none
  else some (x.withSign ['i', 'n', 'f'])

/-- The plain text of a double: positional notation. -/
def text (x : Binary64) : List Char :=
  x.specialText?.getD (x.withSign x.shortest.positional)

/-- The marked text of a double: a point or an exponent is always there. -/
def markedText (x : Binary64) : List Char :=
  let n := x.shortest
  x.specialText?.getD <| x.withSign <|
    if x.magnitude ≠ 0 ∧ (16 < n.place ∨ n.place < -3) then n.scientific 'e'
    else if 0 ≤ n.exponent then n.positional ++ ['.', '0']
    else n.positional

/-- Reads a double, rounding to nearest; too large a number is infinite. -/
def ofText? (cs : List Char) : Option Binary64 :=
  let (negative, body) := splitSign cs
  if equalIgnoringCase body ['i', 'n', 'f']
      || equalIgnoringCase body ['i', 'n', 'f', 'i', 'n', 'i', 't', 'y'] then
    some (infinity negative)
  else if equalIgnoringCase body ['n', 'a', 'n'] then some nan
  else (Numeral.ofText? body).map (ofNumeral negative)

/-- The plain text of a NaN. -/
theorem text_of_isNaN {x : Binary64} (h : x.isNaN = true) :
    x.text = ['N', 'a', 'N'] := by
  simp [text, specialText?, h]

end Binary64

end ScanFilter
