/-!
# White space around numbers

A number may be written with white space on either side of it.  White space is
the Unicode property `White_Space`; zero-width characters are not in it.

* `trim_eq_self` — a text that neither starts nor ends with a blank is its own
  trimmed form.
-/

namespace ScanFilter.Blank

/-- The characters of the Unicode property `White_Space`. -/
def isBlank (c : Char) : Bool :=
  let n := c.toNat
  (9 ≤ n && n ≤ 13) || n == 0x20 || n == 0x85 || n == 0xA0 || n == 0x1680
    || (0x2000 ≤ n && n ≤ 0x200A) || n == 0x2028 || n == 0x2029 || n == 0x202F
    || n == 0x205F || n == 0x3000

/-- A text without the blanks at its start. -/
def trimStart (cs : List Char) : List Char := cs.dropWhile isBlank

/-- A text without the blanks at its start and at its end. -/
def trim (cs : List Char) : List Char :=
  (trimStart (trimStart cs).reverse).reverse

/-- A text whose first character is no blank loses nothing at its start. -/
theorem trimStart_cons {c : Char} (cs : List Char) (h : isBlank c = false) :
    trimStart (c :: cs) = c :: cs := by
  simp [trimStart, h]

/-- A text that neither starts nor ends with a blank is its own trimmed
form. -/
theorem trim_eq_self {cs : List Char} (hfirst : ∀ c ∈ cs.head?, isBlank c = false)
    (hlast : ∀ c ∈ cs.getLast?, isBlank c = false) : trim cs = cs := by
  have keep : ∀ ds : List Char, (∀ c ∈ ds.head?, isBlank c = false) →
      trimStart ds = ds := by
    intro ds h
    cases ds with
    | nil => rfl
    | cons d ds => exact trimStart_cons ds (h d rfl)
  unfold trim
  rw [keep cs hfirst, keep cs.reverse (by simpa using hlast), List.reverse_reverse]

end ScanFilter.Blank
