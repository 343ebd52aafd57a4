import ScanFilter.Proofs.Comparison.Readable
import ScanFilter.Proofs.Value.Agreement
/-!
# Laws of the six comparisons

Six operators ask about one order, which does not depend on the operator: so they all
fail together, and where they succeed each says what the others make it say.  Two
values that are read as doubles do not compare when one of them is a NaN; all other
values are in a total order.  The order turns around when the operands are exchanged,
whatever the types on the two sides.

* `Unrelated` — the operands that do not compare;
* `pivotOrder?_lawful` — through every pivot, values have an order that turns around
  and fails just for these operands;
* `compareValues_laws` — the laws of the six operators on any two values.
-/

namespace ScanFilter

variable {α : Type} {a b l r v : TypedValue}

/-- The error with another operator in the place of the one that it names, if any. -/
def FilterError.withOperator (operator : NodeKind) : FilterError → FilterError
  | unsupportedType t _ => unsupportedType t operator
  | e => e

/-- Whether two values are read as doubles and one of them is a NaN. -/
def Unrelated (a b : TypedValue) : Prop :=
  DataType.pivot a.dataType b.dataType = .double ∧ (a.isNaN = true ∨ b.isNaN = true)

/-- Whether exactly one of three truth values is true. -/
def ExactlyOne (x y z : Bool) : Prop :=
  (x, y, z) = (true, false, false) ∨ (x, y, z) = (false, true, false) ∨
    (x, y, z) = (false, false, true)

/-- A number read as a double is a NaN just if it was one before. -/
theorem isNaN_asDouble {x : Binary64}
    (h : v.dataType.precedence ≤ DataType.double.precedence) (hr : v.asDouble = .ok x) :
    x.isNaN = v.isNaN := by
  obtain ⟨notNull, wellFormed, converts⟩ := TypedValue.readAs_eq_ok_iff.mp hr
  cases TypedValue.legal_of_wellFormed notNull wellFormed with
  | short n =>
      cases converts
      exact Binary64.isNaN_ofRatio ..
  | int n =>
      cases converts
      exact Binary64.isNaN_ofRatio ..
  | long n =>
      cases converts
      exact Binary64.isNaN_ofRatio ..
  | double y =>
      cases converts
      rfl
  | string text => simp [DataType.precedence] at h
  | decimal d => simp [DataType.precedence] at h
  | date millis => cases converts
  | timestamp millis => cases converts
  | boolean b => cases converts
  | binary bytes => cases converts

/-- Two doubles do not compare just if one of them is a NaN. -/
theorem compare_eq_none_iff (x y : Binary64) :
    x.compare y = none ↔ x.isNaN = true ∨ y.isNaN = true := by
  unfold Binary64.compare
  cases x.isNaN <;> cases y.isNaN <;> simp

/-- Two operands that are read have an order just if both are read. -/
theorem orderAs_eq_ok_iff {read : TypedValue → Except FilterError α}
    {order : α → α → Option Ordering} {o : Option Ordering} :
    orderAs read order l r = .ok o ↔
      ∃ x y, read l = .ok x ∧ read r = .ok y ∧ order x y = o := by
  unfold orderAs
  cases read l with
  | error e =>
      rw [Outcome.error_bind]
      constructor
      · intro h
        cases h
      · intro h
        obtain ⟨x, y, hx, _, _⟩ := h
        cases hx
  | ok x =>
      rw [Outcome.ok_bind]
      cases read r with
      | error e =>
          rw [Outcome.error_bind]
          constructor
          · intro h
            cases h
          · intro h
            obtain ⟨x, y, _, hy, _⟩ := h
            cases hy
      | ok y =>
          rw [Outcome.ok_bind]
          constructor
          · intro h
            exact ⟨x, y, rfl, rfl, Except.ok.inj h⟩
          · intro h
            obtain ⟨x, y, hx, hy, rfl⟩ := h
            cases hx
            cases hy
            rfl

/-- What the laws of comparison ask of the order that two operands are brought to:
that it turns around with them, and that it fails for unrelated operands only. -/
structure Lawful (l r : TypedValue) (read : TypedValue → Except FilterError α)
    (order : α → α → Option Ordering) : Prop where
  swap : ∀ x y, order y x = (order x y).map Ordering.swap
  unrelated : ∀ x y, read l = .ok x → read r = .ok y → (order x y = none ↔ Unrelated l r)

/-- A total order is lawful through every pivot but the doubles. -/
theorem lawful_total {read : TypedValue → Except FilterError α} {order : α → α → Ordering}
    (swap : ∀ x y, order y x = (order x y).swap)
    (pivot : DataType.pivot l.dataType r.dataType ≠ .double) :
    Lawful l r read (fun x y => some (order x y)) := by
  constructor
  · intro x y
    rw [swap]
    rfl
  · intro x y _ _
    constructor
    · intro h
      cases h
    · intro unrelated
      exact absurd unrelated.1 pivot

/-- The order of the doubles is lawful through the doubles. -/
theorem lawful_double (pivot : DataType.pivot l.dataType r.dataType = .double) :
    Lawful l r TypedValue.asDouble Binary64.compare := by
  have left := DataType.precedence_le_pivot_left l.dataType r.dataType
  have right := DataType.precedence_le_pivot_right l.dataType r.dataType
  rw [pivot] at left right
  constructor
  · exact Binary64.compare_swap
  · intro x y hx hy
    rw [compare_eq_none_iff, isNaN_asDouble left hx, isNaN_asDouble right hy]
    constructor
    · intro nan
      exact ⟨pivot, nan⟩
    · intro unrelated
      exact unrelated.2

/-- Two values have a lawful order through their pivot, the same one on both sides,
or none on either. -/
theorem pivotOrder?_lawful (l r : TypedValue) :
    (pivotOrder? l r = none ∧ pivotOrder? r l = none) ∨
    ∃ (α : Type) (read : TypedValue → Except FilterError α)
      (order : α → α → Option Ordering),
      pivotOrder? l r = some (orderAs read order l r) ∧
      pivotOrder? r l = some (orderAs read order r l) ∧ Lawful l r read order := by
  unfold pivotOrder?
  rw [DataType.pivot_comm r.dataType l.dataType]
  cases hp : DataType.pivot l.dataType r.dataType with
  | null => exact .inl ⟨rfl, rfl⟩
  | boolean => exact .inl ⟨rfl, rfl⟩
  | binary => exact .inl ⟨rfl, rfl⟩
  | double => exact .inr ⟨_, _, _, rfl, rfl, lawful_double hp⟩
  | decimal =>
      refine .inr ⟨_, _, _, rfl, rfl, lawful_total Decimal.compare_swap ?_⟩
      rw [hp]
      decide
  | _ =>
      refine .inr ⟨_, _, _, rfl, rfl, lawful_total (fun _ _ => Std.OrientedCmp.eq_swap) ?_⟩
      rw [hp]
      decide

/-- What six operators say of one pair of values, each in terms of the others. -/
structure Coherent (holds : ComparisonOperator → Bool) : Prop where
  notEquals : holds .notEquals = !holds .equalTo
  lessThanEqualTo : holds .lessThanEqualTo = (holds .lessThan || holds .equalTo)
  greaterThanEqualTo : holds .greaterThanEqualTo = (holds .greaterThan || holds .equalTo)

theorem coherent_holds (order : Option Ordering) : Coherent (·.holds order) where
  notEquals := ComparisonOperator.holds_ne order
  lessThanEqualTo := ComparisonOperator.holds_le order
  greaterThanEqualTo := ComparisonOperator.holds_ge order

/-- Of values that do not compare, just unequal holds. -/
theorem holds_none (op : ComparisonOperator) : op.holds none = true ↔ op = .notEquals := by
  cases op <;> decide

/-- Of values that compare, exactly one of less, equal and greater holds. -/
theorem exactlyOne_holds (order : Ordering) :
    ExactlyOne (ComparisonOperator.lessThan.holds (some order))
      (ComparisonOperator.equalTo.holds (some order))
      (ComparisonOperator.greaterThan.holds (some order)) := by
  cases order with
  | lt => exact .inl rfl
  | eq => exact .inr (.inl rfl)
  | gt => exact .inr (.inr rfl)

/-- Operands that are compared have an order through their pivot. -/
theorem order_of_compareValues {op : ComparisonOperator} {holds : Bool}
    (h : compareValues op l r = .ok holds) :
    ∃ order, pivotOrder? l r = some (.ok order) ∧ op.holds order = holds := by
  cases hp : pivotOrder? l r with
  | none =>
      rw [compareValues_unsupported hp] at h
      cases h
  | some result =>
      rw [compareValues_of_order hp] at h
      cases result with
      | error e => cases h
      | ok order => exact ⟨order, rfl, Except.ok.inj h⟩

/-- An operator that fails fails as every other one, apart from its name. -/
theorem compareValues_error {op : ComparisonOperator} {e : FilterError}
    (h : compareValues op l r = .error e) (op' : ComparisonOperator) :
    compareValues op' l r = .error (e.withOperator op'.kind) := by
  obtain ⟨_, none⟩ | ⟨_, result, some, outcome⟩ := pivotOrder?_outcome l r
  · rw [compareValues_unsupported none] at h
    cases h
    exact compareValues_unsupported none op'
  · rw [compareValues_of_order some] at h ⊢
    -- The operands are refused for themselves, whatever the operator.
    cases outcome with
    | ok hl hr order => cases h
    | left hl fault =>
        cases h
        rfl
    | right hl hr fault =>
        cases h
        rfl

/-- The order through the pivot turns around with the operands. -/
theorem pivotOrder?_swap {order : Option Ordering}
    (h : pivotOrder? l r = some (.ok order)) :
    pivotOrder? r l = some (.ok (order.map Ordering.swap)) := by
  obtain ⟨none, _⟩ | ⟨α, read, compare, left, right, lawful⟩ := pivotOrder?_lawful l r
  · rw [none] at h
    cases h
  · rw [left] at h
    obtain ⟨x, y, hx, hy, hxy⟩ := orderAs_eq_ok_iff.mp (Option.some.inj h)
    rw [right, orderAs_eq_ok_iff.mpr ⟨y, x, hy, hx, lawful.swap x y⟩, hxy]

/-- The order through the pivot fails just for unrelated operands. -/
theorem order_eq_none_iff {order : Option Ordering}
    (h : pivotOrder? l r = some (.ok order)) : order = none ↔ Unrelated l r := by
  obtain ⟨none, _⟩ | ⟨α, read, compare, left, _, lawful⟩ := pivotOrder?_lawful l r
  · rw [none] at h
    cases h
  · rw [left] at h
    obtain ⟨x, y, hx, hy, hxy⟩ := orderAs_eq_ok_iff.mp (Option.some.inj h)
    rw [← hxy]
    exact lawful.unrelated x y hx hy

/-- A mirrored comparison of exchanged operands succeeds where the comparison does,
with the same outcome. -/
theorem compareValues_swap {op : ComparisonOperator} {holds : Bool}
    (h : compareValues op l r = .ok holds) : compareValues op.swap r l = .ok holds := by
  obtain ⟨order, some, rfl⟩ := order_of_compareValues h
  rw [compareValues_of_order (pivotOrder?_swap some)]
  exact congrArg Except.ok (ComparisonOperator.holds_swap op order)

/-- **Laws of the six comparisons.**  On any two values, all operators fail together
and alike, apart from the operator that an error names.  Where they succeed they are
coherent, and of less, equal and greater exactly one holds, or just unequal when an
operand read as a double is a NaN.  Mirroring an operator together with its operands
changes nothing. -/
theorem compareValues_laws (a b : TypedValue) :
    (∀ op op' e, compareValues op a b = .error e →
      compareValues op' a b = .error (e.withOperator op'.kind)) ∧
    (∀ op r, compareValues op a b = .ok r → ∃ holds : ComparisonOperator → Bool,
      (∀ op, compareValues op a b = .ok (holds op)) ∧ Coherent holds ∧
      (Unrelated a b → ∀ op, holds op = true ↔ op = .notEquals) ∧
      (¬ Unrelated a b →
        ExactlyOne (holds .lessThan) (holds .equalTo) (holds .greaterThan))) ∧
    (∀ op r, compareValues op a b = .ok r ↔ compareValues op.swap b a = .ok r) := by
  refine ⟨fun op op' e h => compareValues_error h op', ?_, ?_⟩
  · intro op r h
    obtain ⟨order, some, _⟩ := order_of_compareValues h
    have unrelated := order_eq_none_iff some
    refine ⟨(·.holds order), compareValues_of_order some, coherent_holds order, ?_, ?_⟩
    · intro apart
      rw [unrelated.mpr apart]
      exact holds_none
    · intro related
      cases order with
      | none => exact absurd (unrelated.mp rfl) related
      | some order => exact exactlyOne_holds order
  · intro op r
    constructor
    · exact compareValues_swap
    · intro h
      have back := compareValues_swap h
      rwa [ComparisonOperator.swap_swap] at back

end ScanFilter
