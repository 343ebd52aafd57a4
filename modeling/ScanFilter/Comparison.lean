import ScanFilter.Value.Reading
/-!
# Comparing two values

Two values are read as the pivot of their declared types, the left one first,
and compared as that type: texts by code points, integers and times by size,
doubles by the rules of arithmetic, decimals as exact numbers.  Types below the
integers have no order.  A null on either side makes every comparison false
before anything is read.

* `compareValues_unsupported` — a pivot without an order is refused;
* `comparisonHolds_null` — a null operand makes a comparison false.
-/

namespace ScanFilter

variable {α : Type}

/-- Reads two values as one target, the left one first, and compares them. -/
def orderAs (read : TypedValue → Except FilterError α)
    (order : α → α → Option Ordering) (left right : TypedValue) :
    Except FilterError (Option Ordering) := do
  let a ← read left
  let b ← read right
  return order a b

/-- How two values compare through the pivot of their types: nothing inside for
values that do not compare, nothing at all for a pivot without an order. -/
def pivotOrder? (left right : TypedValue) :
    Option (Except FilterError (Option Ordering)) :=
  match DataType.pivot left.dataType right.dataType with
  | .string => some (orderAs TypedValue.asString (fun a b => some (compare a b)) left right)
  | .short => some (orderAs TypedValue.asShort (fun a b => some (compare a b)) left right)
  | .int => some (orderAs TypedValue.asInt (fun a b => some (compare a b)) left right)
  | .long => some (orderAs TypedValue.asLong (fun a b => some (compare a b)) left right)
  | .double => some (orderAs TypedValue.asDouble Binary64.compare left right)
  | .decimal =>
    some (orderAs TypedValue.asDecimal (fun a b => some (a.compare b)) left right)
  | .date | .timestamp =>
    some (orderAs TypedValue.asTime (fun a b => some (compare a b)) left right)
  | .null | .boolean | .binary => none

/-- Whether a comparison holds of two values that are not null. -/
def compareValues (op : ComparisonOperator) (left right : TypedValue) :
    Except FilterError Bool :=
  match pivotOrder? left right with
  | some order => order.map op.holds
  | none =>
    .error (.unsupportedType (DataType.pivot left.dataType right.dataType) op.kind)

/-- Whether a comparison holds of two values: false when one of them is null. -/
def comparisonHolds (op : ComparisonOperator) (left right : TypedValue) :
    Except FilterError Bool :=
  if left.isNull || right.isNull then .ok false else compareValues op left right

/-- The outcome of a comparison as a value. -/
def compareTyped (op : ComparisonOperator) (left right : TypedValue) :
    Except FilterError TypedValue :=
  (comparisonHolds op left right).map TypedValue.boolean

/-- A pivot without an order is refused. -/
theorem compareValues_unsupported {left right : TypedValue}
    (h : pivotOrder? left right = none) (op : ComparisonOperator) :
    compareValues op left right
      = .error (.unsupportedType (DataType.pivot left.dataType right.dataType) op.kind) := by
  simp [compareValues, h]

/-- A null operand makes a comparison false. -/
theorem comparisonHolds_null {left right : TypedValue}
    (h : left.isNull = true ∨ right.isNull = true) (op : ComparisonOperator) :
    comparisonHolds op left right = .ok false := by
  simp [comparisonHolds, h]

/-- Operands other than null are compared. -/
theorem comparisonHolds_of_not_null {left right : TypedValue} (hl : left.isNull = false)
    (hr : right.isNull = false) (op : ComparisonOperator) :
    comparisonHolds op left right = compareValues op left right := by
  unfold comparisonHolds
  rw [hl, hr]
  rfl

end ScanFilter
