import ScanFilter.Comparison
import ScanFilter.Expr.Describe
/-!
# Evaluating a filter on a row

Operands are evaluated from left to right before anything is decided, so that a
failing operand is never hidden by the other one.  Every node but a leaf gives a
truth value; a null operand makes comparisons, connectives and negations false.
Membership looks at the members in turn and stops at the first equal one.

* `eval` — the value of a filter on a row;
* `matchesRow` — whether a row passes a filter;
* `matchesRow_of_boolean` — a filter with a truth value passes exactly when it is
  true.
-/

namespace ScanFilter

/-- What the members of a list say about a probe. -/
inductive Membership
  /-- An equal member was found. -/
  | found
  /-- No member is equal, and none is null. -/
  | absent
  /-- No member is equal, and some member is null. -/
  | unsure
  deriving DecidableEq

namespace Membership

/-- What a list says that has a null member in front. -/
def afterNull : Membership → Membership
  | found => found
  | _ => unsure

/-- The outcome of a membership test: a null member keeps a negated test from
holding. -/
def holds (negated : Bool) (m : Membership) : Bool :=
  if negated then m == absent else m == found

end Membership

/-- Reads an operand of a connective or a negation, which must be declared a
truth value. -/
def booleanOperand (operator : NodeKind) (v : TypedValue) : Except FilterError Bool :=
  if v.dataType = .boolean then v.asBoolean
  else .error (.unsupportedType v.dataType operator)

/-- A connective applied to two values. -/
def logicalHolds (op : LogicalOperator) (left right : TypedValue) :
    Except FilterError Bool :=
  if left.isNull || right.isNull then .ok false
  else do
    let a ← booleanOperand op.kind left
    let b ← booleanOperand op.kind right
    return op.apply a b

/-- A condition applied to a value. -/
def unaryHolds (op : UnaryOperator) (v : TypedValue) : Except FilterError Bool :=
  match op with
  | .isNull => .ok v.isNull
  | .isNotNull => .ok (!v.isNull)
  | .not => if v.isNull then .ok false else (booleanOperand op.kind v).map not

/-- The value of a column of a row. -/
def Column.value (row : Row) (c : Column) : Except FilterError TypedValue :=
  match row.get? c.index.toNat with
  | some v => .ok v
  | none => .error (.columnOutOfBounds c.index.toNat row.length)

namespace Expr

mutual

/-- The value of a filter on a row. -/
def eval (row : Row) : Expr → Except FilterError TypedValue
  | literal v => .ok v
  | column c => c.value row
  | comparison op a b => do
    let left ← eval row a
    let right ← eval row b
    return .boolean (← comparisonHolds op left right)
  | logical op a b => do
    let left ← eval row a
    let right ← eval row b
    return .boolean (← logicalHolds op left right)
  | unary op a => do
    let operand ← eval row a
    return .boolean (← unaryHolds op operand)
  | membership a ms negated => do
    let probe ← eval row a
    if probe.isNull then return .boolean false
    return .boolean ((← search row probe ms).holds negated)

/-- What a list of members says about a probe that is not null. -/
def search (row : Row) (probe : TypedValue) : List Expr → Except FilterError Membership
  | [] => .ok .absent
  | m :: ms => do
    let member ← eval row m
    if member.isNull then return (← search row probe ms).afterNull
    if ← compareValues .equalTo probe member then return .found
    search row probe ms

end

/-- Whether the value of a filter lets a row pass: not when it is null, and
otherwise it must be a truth value. -/
def passes (e : Expr) (v : TypedValue) : Except FilterError Bool :=
  if v.isNull then .ok false
  else if v.dataType = .boolean then v.asBoolean
  else .error (.illegalMember v.dataType (.notBoolean e.describe))

/-- Whether a row passes a filter. -/
def matchesRow (e : Expr) (row : Row) : Except FilterError Bool := do
  e.passes (← e.eval row)

/-- A filter whose value is a truth value passes exactly when it is true. -/
theorem matchesRow_of_boolean {e : Expr} {row : Row} {b : Bool}
    (h : e.eval row = .ok (.boolean b)) : e.matchesRow row = .ok b := by
  unfold matchesRow
  rw [h]
  cases b <;> rfl

end Expr

end ScanFilter
