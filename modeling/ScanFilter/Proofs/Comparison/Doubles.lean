import ScanFilter.Proofs.Binary64.Nearest
import ScanFilter.Proofs.Comparison.Numbers
/-!
# Integers against doubles

An integer is rounded to a double before it is compared with one, and above `2 ^ 53` many
integers are rounded to the same.  So a double is found to be equal to every integer that
it is the nearest double to.  But rounding keeps the order of numbers, and a strict order
that is found is there: no two operands are found the wrong way around.  Up to `2 ^ 53`
nothing is lost at all.

* `compareValues_ofInt` — an integer is rounded, then doubles are compared;
* `compareValues_integer_double` — what it says of the integer and of the double.
-/

namespace ScanFilter

open Binary64 (exactly Nearest Rounds)

variable {v : TypedValue} {n : ℤ} {d : Binary64}

/-- Whether a value is an integer of one of the three types. -/
inductive TypedValue.IsInteger : TypedValue → ℤ → Prop
  | short (n : Int16) : IsInteger (.short n) n.toInt
  | int (n : Int32) : IsInteger (.int n) n.toInt
  | long (n : Int64) : IsInteger (.long n) n.toInt

namespace TypedValue.IsInteger

/-- An integer is read as a double by rounding it. -/
theorem asDouble (h : v.IsInteger n) : v.asDouble = .ok (.ofInt n) := by
  cases h with
  | short n => exact readAs_of_legal (.short n) rfl
  | int n => exact readAs_of_legal (.int n) rfl
  | long n => exact readAs_of_legal (.long n) rfl

/-- An integer and a double meet as doubles. -/
theorem pivot_double (h : v.IsInteger n) :
    DataType.pivot v.dataType .double = .double ∧
    DataType.pivot .double v.dataType = .double := by
  cases h <;> exact ⟨rfl, rfl⟩

theorem bound (h : v.IsInteger n) : |(n : ℚ)| ≤ 0x10000000000000000 := by
  cases h with
  | short n =>
      have low := n.le_toInt
      have high := n.toInt_lt
      exact Binary64.abs_le_of_range (by omega) (by omega)
  | int n =>
      have low := n.le_toInt
      have high := n.toInt_lt
      exact Binary64.abs_le_of_range (by omega) (by omega)
  | long n => exact Binary64.abs_le_of_range n.le_toInt n.toInt_lt

/-- Only long integers go beyond `2 ^ 53`. -/
theorem small (h : v.IsInteger n) (long : v.dataType = .long → n.natAbs ≤ 0x20000000000000) :
    n.natAbs ≤ 0x20000000000000 := by
  cases h with
  | short n =>
      have low := n.le_toInt
      have high := n.toInt_lt
      omega
  | int n =>
      have low := n.le_toInt
      have high := n.toInt_lt
      omega
  | long n => exact long rfl

end TypedValue.IsInteger

/-- Values that meet as doubles compare as the doubles that they are read as. -/
theorem compareValues_as_doubles {l r : TypedValue} {x y : Binary64}
    (pivot : DataType.pivot l.dataType r.dataType = .double) (hl : l.asDouble = .ok x)
    (hr : r.asDouble = .ok y) (op : ComparisonOperator) :
    compareValues op l r = .ok (op.holds (x.compare y)) := by
  have order : pivotOrder? l r = some (.ok (x.compare y)) := by
    unfold pivotOrder?
    rw [pivot]
    exact congrArg some (orderAs_eq_ok_iff.mpr ⟨x, y, hl, hr, rfl⟩)
  rw [compareValues_of_order order]
  rfl

theorem compareValues_doubles (op : ComparisonOperator) (x y : Binary64) :
    compareValues op (.double x) (.double y) = .ok (op.holds (x.compare y)) :=
  compareValues_as_doubles rfl (TypedValue.asDouble_double x) (TypedValue.asDouble_double y) op

/-- A comparison of doubles other than NaN is one of their ranks. -/
theorem holds_compare_rank {x y : Binary64} (hx : x.isNaN = false) (hy : y.isNaN = false)
    (op : ComparisonOperator) : op.holds (x.compare y) = decide (op.Relates x.rank y.rank) := by
  rw [Binary64.compare, hx, hy]
  exact op.holds_compare x.rank y.rank

/-- A comparison of doubles other than NaN is one of their numbers. -/
theorem holds_compare_number {x y : Binary64} (hx : x.isNaN = false) (hy : y.isNaN = false)
    (op : ComparisonOperator) :
    op.holds (x.compare y) = decide (op.Relates x.number y.number) := by
  rw [Binary64.compare_eq_compare_number hx hy, op.holds_compare]

/-- An integer and a double are compared as the double of the integer and the double. -/
theorem compareValues_ofInt (h : v.IsInteger n) (d : Binary64) (op : ComparisonOperator) :
    compareValues op v (.double d) = .ok (op.holds ((Binary64.ofInt n).compare d)) ∧
    compareValues op (.double d) v = .ok (op.holds (d.compare (Binary64.ofInt n))) := by
  have double := TypedValue.asDouble_double d
  obtain ⟨left, right⟩ := h.pivot_double
  exact ⟨compareValues_as_doubles left h.asDouble double op,
    compareValues_as_doubles right double h.asDouble op⟩

/-- A comparison of an integer with a double other than NaN holds just if it holds of the
ranks. -/
theorem compareValues_eq_true_iff (h : v.IsInteger n) (hd : d.isNaN = false)
    (op : ComparisonOperator) :
    (compareValues op v (.double d) = .ok true ↔
      op.Relates (Binary64.ofInt n).rank d.rank) ∧
    (compareValues op (.double d) v = .ok true ↔
      op.Relates d.rank (Binary64.ofInt n).rank) := by
  have rounded := (Binary64.rounds_ofInt n).isNaN
  obtain ⟨forward, backward⟩ := compareValues_ofInt h d op
  rw [forward, backward, holds_compare_rank rounded hd, holds_compare_rank hd rounded,
    Except.ok.injEq, Except.ok.injEq, decide_eq_true_iff, decide_eq_true_iff]
  exact ⟨Iff.rfl, Iff.rfl⟩

/-- An integer that is a double compares with doubles as a number. -/
theorem compareValues_small (h : v.IsInteger n) (hd : d.isNaN = false)
    (small : n.natAbs ≤ 0x20000000000000) (op : ComparisonOperator) :
    compareValues op v (.double d) = .ok (decide (op.Relates (exactly n) d.number)) ∧
    compareValues op (.double d) v = .ok (decide (op.Relates d.number (exactly n))) := by
  have rounds := Binary64.rounds_ofInt n
  obtain ⟨finite, value⟩ := rounds.value_eq small
  have number : (Binary64.ofInt n).number = exactly n := by
    rw [Binary64.number_of_isFinite finite, value]
  obtain ⟨forward, backward⟩ := compareValues_ofInt h d op
  rw [forward, backward, holds_compare_number rounds.isNaN hd,
    holds_compare_number hd rounds.isNaN, number]
  exact ⟨rfl, rfl⟩

/-- What comparisons of two operands say of their numbers when one of them is rounded: a
strict order that is found is there, and equal are those that round to each other. -/
structure ComparesRounded (l r : TypedValue) (x y : WithBot (WithTop ℚ)) (near : Prop) :
    Prop where
  less : compareValues .lessThan l r = .ok true → x < y
  greater : compareValues .greaterThan l r = .ok true → y < x
  equal : compareValues .equalTo l r = .ok true ↔ near

/-- **Integers against doubles.**  Take an integer of any type and a double other than
NaN, on either side.  Where one is found to be less than the other, it is.  They are
found to be equal just if the double is nearest to the integer, with an even significand
where two are.  Up to `2 ^ 53`, and so for all but long integers, every comparison is that
of the integer with the number of the double. -/
theorem compareValues_integer_double (h : v.IsInteger n) (hd : d.isNaN = false) :
    ComparesRounded v (.double d) (exactly n) d.number (Nearest n d) ∧
    ComparesRounded (.double d) v d.number (exactly n) (Nearest n d) ∧
    ((v.dataType = .long → n.natAbs ≤ 0x20000000000000) → ∀ op,
      compareValues op v (.double d) = .ok (decide (op.Relates (exactly n) d.number)) ∧
      compareValues op (.double d) v = .ok (decide (op.Relates d.number (exactly n)))) := by
  have rounds := Binary64.rounds_ofInt n
  have near : (Binary64.ofInt n).rank = d.rank ↔ Nearest n d := rounds.rank_eq_iff h.bound
  have holds := compareValues_eq_true_iff h hd
  refine ⟨⟨?_, ?_, ?_⟩, ⟨?_, ?_, ?_⟩, fun long => compareValues_small h hd (h.small long)⟩
  · exact fun less => rounds.lt_number hd ((holds .lessThan).1.mp less)
  · exact fun greater => rounds.number_lt hd ((holds .greaterThan).1.mp greater)
  · exact (holds .equalTo).1.trans near
  · exact fun less => rounds.number_lt hd ((holds .lessThan).2.mp less)
  · exact fun greater => rounds.lt_number hd ((holds .greaterThan).2.mp greater)
  · exact ((holds .equalTo).2.trans eq_comm).trans near

/-- An integer that is no double equals the double below it and is less than infinity; one
that is a double does not equal the double above it. -/
theorem compareValues_integer_double_past_2_53 :
    Nearest 0x20000000000001 ⟨0x4340000000000000⟩ ∧
    exactly 0x20000000000001 < (Binary64.infinity false).number ∧
    (Binary64.mk 0x4340000000000001).number ≠ exactly 0x20000000000000 := by
  have nearest := (compareValues_integer_double (v := .long 0x20000000000001)
    (d := ⟨0x4340000000000000⟩) (.long _) (by decide)).1.equal.mp (by decide +kernel)
  have less := (compareValues_integer_double (v := .long 0x20000000000001)
    (d := .infinity false) (.long _) (by decide)).1.less (by decide +kernel)
  have differ : compareValues .equalTo (.double ⟨0x4340000000000001⟩)
      (.long 0x20000000000000) = .ok false := by decide +kernel
  have exact := ((compareValues_integer_double (v := .long 0x20000000000000)
    (d := ⟨0x4340000000000001⟩) (.long _) (by decide)).2.2 (by decide) .equalTo).2
  rw [differ] at exact
  exact ⟨nearest, less, of_decide_eq_false (Except.ok.inj exact).symm⟩

end ScanFilter
