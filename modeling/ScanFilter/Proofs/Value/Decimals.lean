import ScanFilter.Proofs.Decimal.Nearest
import ScanFilter.Proofs.Value.Legal
import ScanFilter.Value.Text
/-!
# Decimals read as doubles

A decimal can be read as a double in two ways: as it is, or by its text.  Both always
succeed.  The text is read as the double nearest to the number, a zero if the number is
tiny and infinity only if it is past all doubles.  The decimal itself is read as this
double where nothing is lost before the last step, and as infinity where its scale needs
more than 32 bits, however near to zero the number is.

* `asDouble_decimal_text` — the text of a decimal is read as its nearest double;
* `asDouble_decimal` — when the two ways agree, and when they do not.
-/

namespace ScanFilter.TypedValue

/-- A decimal is read as the double that it becomes in steps. -/
theorem asDouble_eq_toBinary64 (d : Decimal) : (decimal d).asDouble = .ok d.toBinary64 :=
  readAs_of_legal (.decimal d) rfl

/-- The text of a decimal is read as the nearest double. -/
theorem asDouble_decimal_text (d : Decimal) :
    (string (String.ofList d.text)).asDouble = .ok d.nearest := by
  refine readAs_of_legal (.string _) ?_
  change Binary64.ofText? (Blank.trim (String.ofList d.text).toList) = some d.nearest
  rw [String.toList_ofList, d.solid_text.trim, d.ofText?_text]

/-- **Decimals read as doubles.**  A decimal is read as its text and as a double, and its
text as a double, that to which the number of the decimal is rounded.  The two doubles are
the same if the decimal is direct.  With places behind the point it is otherwise a number
less than a `10 ^ 24`-th away that is rounded for the decimal; but if these places need
more than 32 bits to count, the decimal is read as infinity and its text as a zero. -/
theorem asDouble_decimal (d : Decimal) :
    let negative := decide (d.unscaled < 0)
    ∃ text x y, (decimal d).asString = .ok text ∧ (decimal d).asDouble = .ok x ∧
      (string text).asDouble = .ok y ∧
      Binary64.Rounds d.value y ∧ y.isNegative = negative ∧
      (d.Direct → x = y) ∧
      (d.unscaled ≠ 0 → 0 < d.cutScale → d.cutScale < 0x80000000 →
        ∃ r, Binary64.Rounds r x ∧ |d.value - r| * 10 ^ 24 ≤ |d.value|) ∧
      (d.unscaled ≠ 0 → 0x80000000 ≤ d.cutScale →
        x = .infinity negative ∧ y = .zero negative) := by
  intro negative
  exact ⟨String.ofList d.text, d.toBinary64, d.nearest, readAs_of_legal (.decimal d) rfl,
    asDouble_eq_toBinary64 d, asDouble_decimal_text d, d.rounds_nearest,
    Binary64.isNegative_ofNumeral .., Decimal.toBinary64_of_direct, Decimal.rounds_of_behind,
    Decimal.toBinary64_of_far⟩

/-- Hundredths are direct.  A single unit so many places behind the point is not. -/
theorem asDouble_decimal_units :
    (∃ x, (decimal ⟨314, 2⟩).asDouble = .ok x ∧ (string "3.14").asDouble = .ok x) ∧
    (decimal ⟨-1, 0x7fffffffffffffff⟩).asDouble = .ok (.infinity true) := by
  constructor
  · obtain ⟨text, x, y, shown, read, back, _, _, same, _⟩ := asDouble_decimal ⟨314, 2⟩
    have shown' : (decimal ⟨314, 2⟩).asString = .ok "3.14" := by decide
    obtain rfl := Except.ok.inj (shown.symm.trans shown')
    have direct : Decimal.Direct ⟨314, 2⟩ := .fraction (by decide) (by decide) (by decide)
    exact ⟨y, same direct ▸ read, back⟩
  · obtain ⟨_, x, _, _, read, _, _, _, _, _, far⟩ := asDouble_decimal ⟨-1, 0x7fffffffffffffff⟩
    rw [read, (far (by decide) (by decide)).1]
    rfl

/-- **Infinity next to zero.**  One unit `2 ^ 31` places behind the point is read as
infinity, and its text as zero. -/
theorem asDouble_decimal_differs :
    (decimal ⟨1, 2147483648⟩).asString = .ok "1E-2147483648" ∧
    (decimal ⟨1, 2147483648⟩).asDouble = .ok (.infinity false) ∧
    (string "1E-2147483648").asDouble = .ok (.zero false) ∧
    (decimal ⟨1, 2147483648⟩).asDouble ≠ (string "1E-2147483648").asDouble := by
  decide

end ScanFilter.TypedValue
