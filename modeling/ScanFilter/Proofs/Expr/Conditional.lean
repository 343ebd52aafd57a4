import ScanFilter.Expr.Evaluation
import ScanFilter.Proofs.Expr.Nodes
import ScanFilter.Proofs.Outcome
/-!
# Conditionals

A conditional is a tree whose root is neither a literal nor a column.  Whatever it is
made of, it fails or it has a truth value: never a null, and never a value of another
type.  So a connective of two conditionals asks nothing of their types.  It has the
truth value that it makes of both, or the first failure of them, the left one before
the right one; and a negation turns the truth value around.

* `eval_of_not_leaf` — a conditional fails or has a truth value;
* `LogicalOperator.both` — a connective of two truth values that may be failures;
* `eval_logical_of_truth`, `eval_not_of_truth` — connectives and negations of
  conditionals;
* `eval_isNull`, `eval_isNotNull` — tests for null.
-/

namespace ScanFilter

/-- A connective of two answers, the left one asked before the right one. -/
def LogicalOperator.both (op : LogicalOperator) (x y : Except FilterError Bool) :
    Except FilterError Bool := do
  return op.apply (← x) (← y)

/-- Truth values are operands of every connective. -/
theorem logicalHolds_boolean (op : LogicalOperator) (a b : Bool) :
    logicalHolds op (.boolean a) (.boolean b) = .ok (op.apply a b) := by
  have left : booleanOperand op.kind (.boolean a) = .ok a := TypedValue.asBoolean_boolean a
  have right : booleanOperand op.kind (.boolean b) = .ok b := TypedValue.asBoolean_boolean b
  unfold logicalHolds
  rw [left, right]
  rfl

/-- A truth value is turned around by a negation. -/
theorem unaryHolds_not_boolean (b : Bool) : unaryHolds .not (.boolean b) = .ok (!b) := by
  have operand : booleanOperand UnaryOperator.not.kind (.boolean b) = .ok b :=
    TypedValue.asBoolean_boolean b
  unfold unaryHolds
  rw [operand]
  rfl

namespace Expr

variable {row : Row} {a b e : Expr} {x y : Except FilterError Bool}

/-- Whether a result is a failure or a truth value. -/
def IsTruth (result : Except FilterError TypedValue) : Prop :=
  ∃ x : Except FilterError Bool, result = x.map .boolean

/-- A computation that ends by making a truth value of a yes or a no fails or has a
truth value. -/
theorem isTruth_bind {α : Type} {x : Except FilterError α}
    {f : α → Except FilterError TypedValue} (h : ∀ v, IsTruth (f v)) : IsTruth (x >>= f) := by
  cases x with
  | error err => exact ⟨.error err, rfl⟩
  | ok v => exact h v

theorem isTruth_boolean (x : Except FilterError Bool) :
    IsTruth (x >>= fun b => pure (.boolean b)) := by
  cases x with
  | error err => exact ⟨.error err, rfl⟩
  | ok b => exact ⟨.ok b, rfl⟩

/-- A conditional fails or has a truth value. -/
theorem eval_of_not_leaf (h : e.isLeaf = false) (row : Row) : IsTruth (e.eval row) := by
  cases e with
  | literal v => cases h
  | column c => cases h
  | comparison op a b =>
      rw [eval]
      exact isTruth_bind fun v => isTruth_bind fun w => isTruth_boolean _
  | logical op a b =>
      rw [eval]
      exact isTruth_bind fun v => isTruth_bind fun w => isTruth_boolean _
  | unary op a =>
      rw [eval]
      exact isTruth_bind fun v => isTruth_boolean _
  | membership a ms negated =>
      rw [eval]
      refine isTruth_bind fun v => ?_
      split
      · exact ⟨.ok false, rfl⟩
      · exact isTruth_bind fun said => ⟨.ok (said.holds negated), rfl⟩

/-- A connective of two conditionals has the answer that it makes of theirs. -/
theorem eval_logical_of_truth (ha : a.eval row = x.map .boolean)
    (hb : b.eval row = y.map .boolean) (op : LogicalOperator) :
    (logical op a b).eval row = (op.both x y).map .boolean := by
  rw [eval, ha, hb]
  cases x with
  | error err => rfl
  | ok p =>
      cases y with
      | error err => rfl
      | ok q =>
          simp only [Except.map, Outcome.ok_bind, logicalHolds_boolean]
          rfl

/-- A negation of a conditional has the opposite answer. -/
theorem eval_not_of_truth (ha : a.eval row = x.map .boolean) :
    (unary .not a).eval row = (x.map not).map .boolean := by
  rw [eval, ha]
  cases x with
  | error err => rfl
  | ok p =>
      simp only [Except.map, Outcome.ok_bind, unaryHolds_not_boolean]
      rfl

/-- A test for null asks only its operand, be it a conditional or not. -/
theorem eval_isNull (row : Row) (e : Expr) :
    (unary .isNull e).eval row = ((e.eval row).map TypedValue.isNull).map .boolean := by
  rw [eval]
  cases e.eval row <;> rfl

theorem eval_isNotNull (row : Row) (e : Expr) :
    (unary .isNotNull e).eval row = ((e.eval row).map fun v => !v.isNull).map .boolean := by
  rw [eval]
  cases e.eval row <;> rfl

end Expr

end ScanFilter
