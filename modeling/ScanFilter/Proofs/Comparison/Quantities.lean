import ScanFilter.Proofs.Binary64.Shortest
import ScanFilter.Proofs.Comparison.Doubles
/-!
# Doubles and decimals share one order

A double is compared with a double by its bits, and with a decimal by the shortest decimal
that is rounded to it, which is in general another number.  All the same there is one
order behind both.  Shortest decimals are in the order of their doubles, and integers up
to `2 ^ 53` are their own shortest decimals.  So every comparison of integers, doubles and
decimals is one of the decimals that they are read as, and to replace an operand by its
decimal changes nothing.

* `Quantity` — the values that this is true of;
* `compareValues_of_measures` — a comparison is one of the decimal numbers of its
  operands;
* `compareValues_as_decimals` — for all quantities, and what follows for replaced operands
  and for chains.
-/

namespace ScanFilter

variable {v l r : TypedValue} {p q : ℚ}

/-- Whether a value is a small integer, a finite double or a decimal, and the number of
the decimal that it is read as. -/
inductive TypedValue.Measures : TypedValue → ℚ → Prop
  | integer {v : TypedValue} {n : ℤ} (h : v.IsInteger n) (small : n.natAbs ≤ 0x20000000000000) :
      Measures v n
  | double {x : Binary64} (finite : x.isFinite = true) : Measures (.double x) x.shown
  | decimal (d : Decimal) : Measures (.decimal d) d.value

/-- An integer is read as its decimal. -/
theorem TypedValue.IsInteger.asDecimal {n : ℤ} (h : v.IsInteger n) :
    v.asDecimal = .ok (.ofInt n) := by
  cases h with
  | short n => exact readAs_of_legal (.short n) rfl
  | int n => exact readAs_of_legal (.int n) rfl
  | long n => exact readAs_of_legal (.long n) rfl

/-- The member of the numbers that an integer is. -/
theorem TypedValue.IsInteger.exists_member {n : ℤ} (h : v.IsInteger n) :
    ∃ m : Family.numbers.Member, m.value = v ∧ m.number = n := by
  cases h with
  | short n => exact ⟨.short n, rfl, rfl⟩
  | int n => exact ⟨.int n, rfl, rfl⟩
  | long n => exact ⟨.long n, rfl, rfl⟩

namespace TypedValue.Measures

theorem asDecimal (h : v.Measures p) : ∃ d, v.asDecimal = .ok d ∧ d.value = p := by
  cases h with
  | integer h small => exact ⟨_, h.asDecimal, Decimal.value_ofInt _⟩
  | double finite =>
      obtain ⟨d, converts, value⟩ := Decimal.ofBinary64?_of_isFinite finite
      exact ⟨d, readAs_of_legal (.double _) converts, value⟩
  | decimal d => exact ⟨d, readAs_of_legal (.decimal d) rfl, rfl⟩

/-- What is no decimal is read as a finite double that shows the number. -/
theorem asDouble (h : v.Measures p) (other : v.dataType ≠ .decimal) :
    ∃ x, v.asDouble = .ok x ∧ x.isFinite = true ∧ x.shown = p := by
  cases h with
  | @integer _ n h small =>
      obtain ⟨finite, value⟩ := (Binary64.rounds_ofInt n).value_eq small
      exact ⟨_, h.asDouble, finite, Binary64.shown_eq_of_value finite value small⟩
  | @double x finite => exact ⟨x, asDouble_double x, finite, rfl⟩
  | decimal d => exact absurd rfl other

end TypedValue.Measures

/-- Values that meet as decimals compare as the numbers of their decimals. -/
theorem compareValues_of_decimal (hl : l.Measures p) (hr : r.Measures q)
    (pivot : DataType.pivot l.dataType r.dataType = .decimal) (op : ComparisonOperator) :
    compareValues op l r = .ok (decide (op.Relates p q)) := by
  obtain ⟨a, readLeft, rfl⟩ := hl.asDecimal
  obtain ⟨b, readRight, rfl⟩ := hr.asDecimal
  have order : pivotOrder? l r = some (.ok (some (compare a.value b.value))) := by
    unfold pivotOrder?
    rw [pivot, ← Decimal.compare_eq_compare_value]
    exact congrArg some (orderAs_eq_ok_iff.mpr ⟨a, b, readLeft, readRight, rfl⟩)
  rw [compareValues_of_order order, ← op.holds_compare]
  rfl

/-- Values that meet as doubles compare as what their doubles show. -/
theorem compareValues_of_double (hl : l.Measures p) (hr : r.Measures q)
    (pivot : DataType.pivot l.dataType r.dataType = .double)
    (left : l.dataType ≠ .decimal) (right : r.dataType ≠ .decimal)
    (op : ComparisonOperator) :
    compareValues op l r = .ok (decide (op.Relates p q)) := by
  obtain ⟨x, readLeft, finiteLeft, rfl⟩ := hl.asDouble left
  obtain ⟨y, readRight, finiteRight, rfl⟩ := hr.asDouble right
  rw [compareValues_as_doubles pivot readLeft readRight,
    Binary64.compare_eq_compare_shown finiteLeft finiteRight, op.holds_compare]

/-- A comparison is one of the numbers of the decimals that its operands are read as. -/
theorem compareValues_of_measures (hl : l.Measures p) (hr : r.Measures q)
    (op : ComparisonOperator) : compareValues op l r = .ok (decide (op.Relates p q)) := by
  have left := hl
  have right := hr
  cases left with
  | @integer l m hm =>
      cases right with
      | @integer r n hn =>
          obtain ⟨a, rfl, number⟩ := hm.exists_member
          obtain ⟨b, rfl, number'⟩ := hn.exists_member
          rw [← number, ← number']
          exact compareValues_member op a b
      | double =>
          exact compareValues_of_double hl hr hm.pivot_double.1 (by cases hm <;> nofun) nofun op
      | decimal => exact compareValues_of_decimal hl hr (by cases hm <;> rfl) op
  | double =>
      cases right with
      | @integer r n hn =>
          exact compareValues_of_double hl hr hn.pivot_double.2 nofun (by cases hn <;> nofun) op
      | double => exact compareValues_of_double hl hr rfl nofun nofun op
      | decimal => exact compareValues_of_decimal hl hr rfl op
  | decimal =>
      refine compareValues_of_decimal hl hr ?_ op
      cases right with
      | @integer r n hn => cases hn <;> rfl
      | double => rfl
      | decimal => rfl

/-- Whether a payload is no long integer beyond `2 ^ 53`, no infinity and no NaN. -/
def Payload.Moderate : Payload → Prop
  | long n => n.toInt.natAbs ≤ 0x20000000000000
  | double x => x.isFinite = true
  | _ => True

/-- A number of an integer type, a double or a decimal that is not null, fits its declared
type and is moderate. -/
structure Quantity where
  value : TypedValue
  notNull : value.isNull = false
  wellFormed : value.wellFormed = true
  declared : value.dataType ∈ [.short, .int, .long, .double, .decimal]
  moderate : value.payload.Moderate

namespace Quantity

/-- A quantity is of one of the kinds that measure a number. -/
theorem measures (m : Quantity) : ∃ p, m.value.Measures p := by
  obtain ⟨v, notNull, wellFormed, declared, moderate⟩ := m
  cases TypedValue.legal_of_wellFormed notNull wellFormed with
  | short n =>
      have low := n.le_toInt
      have high := n.toInt_lt
      exact ⟨_, .integer (.short n) (by omega)⟩
  | int n =>
      have low := n.le_toInt
      have high := n.toInt_lt
      exact ⟨_, .integer (.int n) (by omega)⟩
  | long n => exact ⟨_, .integer (.long n) moderate⟩
  | double x => exact ⟨_, .double moderate⟩
  | decimal d => exact ⟨_, .decimal d⟩
  | _ => simp at declared

/-- Whether one quantity is found to be at most another one. -/
def AtMost (a b : Quantity) : Prop :=
  compareValues .lessThanEqualTo a.value b.value = .ok true

instance (a b : Quantity) : Decidable (a.AtMost b) :=
  inferInstanceAs (Decidable (_ = _))

theorem atMost_iff {a b : Quantity} (ha : a.value.Measures p) (hb : b.value.Measures q) :
    a.AtMost b ↔ p ≤ q := by
  rw [AtMost, compareValues_of_measures ha hb, Except.ok.injEq, decide_eq_true_iff]
  exact Iff.rfl

end Quantity

/-- **Doubles and decimals share one order.**  Any two quantities are read as decimals, and
every comparison of them succeeds and is one of the numbers of these decimals.  So it
stays the same when either operand, or both, are replaced by their decimals, and a
quantity that is at most a second one is at most everything that the second one is at
most, whatever the types of the three. -/
theorem compareValues_as_decimals :
    (∀ l r : Quantity, ∃ a b, l.value.asDecimal = .ok a ∧ r.value.asDecimal = .ok b ∧
      ∀ op, compareValues op l.value r.value = .ok (decide (op.Relates a.value b.value)) ∧
        compareValues op (.decimal a) r.value = compareValues op l.value r.value ∧
        compareValues op l.value (.decimal b) = compareValues op l.value r.value ∧
        compareValues op (.decimal a) (.decimal b) = compareValues op l.value r.value) ∧
    (∀ a b c : Quantity, a.AtMost b → b.AtMost c → a.AtMost c) := by
  constructor
  · intro l r
    obtain ⟨_, hl⟩ := l.measures
    obtain ⟨_, hr⟩ := r.measures
    obtain ⟨a, readLeft, rfl⟩ := hl.asDecimal
    obtain ⟨b, readRight, rfl⟩ := hr.asDecimal
    refine ⟨a, b, readLeft, readRight, fun op => ?_⟩
    rw [compareValues_of_measures hl hr, compareValues_of_measures (.decimal a) hr,
      compareValues_of_measures hl (.decimal b),
      compareValues_of_measures (.decimal a) (.decimal b)]
    exact ⟨rfl, rfl, rfl, rfl⟩
  · intro a b c hab hbc
    obtain ⟨p, ha⟩ := a.measures
    obtain ⟨q, hb⟩ := b.measures
    obtain ⟨r, hc⟩ := c.measures
    rw [Quantity.atMost_iff ha hb] at hab
    rw [Quantity.atMost_iff hb hc] at hbc
    rw [Quantity.atMost_iff ha hc]
    exact hab.trans hbc

/-- One tenth as a double, which is in truth a little more. -/
def tenthQuantity : Quantity := ⟨.double ⟨0x3fb999999999999a⟩, rfl, rfl, by decide, rfl⟩

/-- One tenth as a decimal. -/
def decimalQuantity : Quantity := ⟨.decimal ⟨1, 1⟩, rfl, rfl, by decide, trivial⟩

/-- One. -/
def oneQuantity : Quantity := ⟨.int 1, rfl, rfl, by decide, trivial⟩

/-- A double and a decimal that it shows are at most each other, and at most one. -/
theorem compareValues_as_decimals_tenth :
    tenthQuantity.AtMost decimalQuantity ∧ decimalQuantity.AtMost oneQuantity ∧
      tenthQuantity.AtMost oneQuantity := by
  have first : tenthQuantity.AtMost decimalQuantity := by decide +kernel
  have second : decimalQuantity.AtMost oneQuantity := by decide +kernel
  exact ⟨first, second, compareValues_as_decimals.2 _ _ _ first second⟩

end ScanFilter
