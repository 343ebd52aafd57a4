import ScanFilter.Expr.Evaluation
/-!
# Evaluating a filter in place

Filtering makes no value that it can do without.  The value of a leaf is borrowed, from
the tree or from the row, and may only be looked at; the value of any other node is the
node's own.  What a node decides is written over the value of its first operand if that
is owned, and is a new value if it is borrowed.  The members of a list are looked at in
turn, with a mark for an equal one and a mark for a null.

* `Operand.outcome` — what a node decides, over its first operand;
* `evaluate` — the operand that a filter is on a row;
* `set_boolean` — of what was written over nothing is left.
-/

namespace ScanFilter

/-- Writes over a value, its declared type and its payload. -/
def TypedValue.set (v : TypedValue) (dataType : DataType) (payload : Payload) : TypedValue :=
  { v with dataType, payload }

/-- The value of an operand. -/
inductive Operand
  /-- A value of the tree or of the row. -/
  | borrowed (v : TypedValue)
  /-- A value that was made by evaluating. -/
  | owned (v : TypedValue)
  deriving DecidableEq

namespace Operand

/-- The value of an operand, whoever it belongs to. -/
def value : Operand → TypedValue
  | borrowed v | owned v => v

/-- What a node decides: written over its first operand if that is owned, and else a new
value. -/
def outcome (b : Bool) : Operand → TypedValue
  | owned v => v.set .boolean (.boolean b)
  | borrowed _ => .boolean b

end Operand

namespace Expr

mutual

/-- The operand that a filter is on a row. -/
def evaluate (row : Row) : Expr → Except FilterError Operand
  | literal v => .ok (.borrowed v)
  | column c => do
    let v ← c.value row
    return .borrowed v
  | comparison op a b => do
    let left ← evaluate row a
    let right ← evaluate row b
    return .owned (left.outcome (← comparisonHolds op left.value right.value))
  | logical op a b => do
    let left ← evaluate row a
    let right ← evaluate row b
    return .owned (left.outcome (← logicalHolds op left.value right.value))
  | unary op a => do
    let operand ← evaluate row a
    return .owned (operand.outcome (← unaryHolds op operand.value))
  | membership a ms negated => do
    let probe ← evaluate row a
    if probe.value.isNull then return .owned (probe.outcome false)
    let (found, sawNull) ← lookThrough row probe.value ms false
    return .owned (probe.outcome (if negated then !found && !sawNull else found))

/-- Looks through members up to the first that equals a probe: whether there is one, and
whether a null was seen. -/
def lookThrough (row : Row) (probe : TypedValue) :
    List Expr → Bool → Except FilterError (Bool × Bool)
  | [], sawNull => .ok (false, sawNull)
  | m :: ms, sawNull => do
    let member ← evaluate row m
    if member.value.isNull then lookThrough row probe ms true
    else if ← compareValues .equalTo probe member.value then return (true, sawNull)
    else lookThrough row probe ms sawNull

end

end Expr

/-- Of a value that a truth value was written over nothing is left. -/
theorem TypedValue.set_boolean (v : TypedValue) (b : Bool) :
    v.set .boolean (.boolean b) = boolean b := rfl

end ScanFilter
