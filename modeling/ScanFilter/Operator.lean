/-!
# Operators of filter expressions

Six comparisons, two connectives and three conditions on a single operand.  A
comparison is decided from how its operands compare; operands that do not
compare at all, as a NaN with anything, are unequal and otherwise unrelated.

* `holds_ne`, `holds_le`, `holds_ge` — three comparisons in terms of the others;
* `holds_swap` — turning a comparison around together with its operands
  changes nothing.
-/

namespace ScanFilter

/-- What a node of an expression does; the last two are the two forms of a
membership test. -/
inductive NodeKind
  | literal | column
  | equalTo | notEquals | lessThan | lessThanEqualTo | greaterThan
  | greaterThanEqualTo
  | and | or
  | not | isNull | isNotNull
  | isIn | notIn
  deriving DecidableEq

/-- The name of a kind of node in messages and descriptions. -/
def NodeKind.name : NodeKind → String
  | literal => "Literal"
  | column => "Column"
  | equalTo => "EqualTo"
  | notEquals => "NotEquals"
  | lessThan => "LessThan"
  | lessThanEqualTo => "LessThanEqualTo"
  | greaterThan => "GreaterThan"
  | greaterThanEqualTo => "GreaterThanEqualTo"
  | and => "And"
  | or => "Or"
  | not => "Not"
  | isNull => "IsNull"
  | isNotNull => "IsNotNull"
  | isIn => "In"
  | notIn => "NotIn"

/-- A comparison of two operands. -/
inductive ComparisonOperator
  | equalTo | notEquals | lessThan | lessThanEqualTo | greaterThan
  | greaterThanEqualTo
  deriving DecidableEq

namespace ComparisonOperator

/-- Every comparison, in the order of the plan encoding. -/
def all : List ComparisonOperator :=
  [equalTo, notEquals, lessThan, lessThanEqualTo, greaterThan, greaterThanEqualTo]

/-- The kind of node that applies a comparison. -/
def kind : ComparisonOperator → NodeKind
  | equalTo => .equalTo
  | notEquals => .notEquals
  | lessThan => .lessThan
  | lessThanEqualTo => .lessThanEqualTo
  | greaterThan => .greaterThan
  | greaterThanEqualTo => .greaterThanEqualTo

/-- The name of a comparison. -/
def name (op : ComparisonOperator) : String := op.kind.name

/-- The comparison of a given name. -/
def ofName? (text : String) : Option ComparisonOperator :=
  all.find? (·.name == text)

/-- Whether a comparison holds of operands that compare in a given way; nothing
stands for operands that do not compare. -/
def holds : ComparisonOperator → Option Ordering → Bool
  | equalTo, order => order == some .eq
  | notEquals, order => order != some .eq
  | lessThan, order => order == some .lt
  | lessThanEqualTo, order => order == some .lt || order == some .eq
  | greaterThan, order => order == some .gt
  | greaterThanEqualTo, order => order == some .gt || order == some .eq

/-- The comparison that says the same of exchanged operands. -/
def swap : ComparisonOperator → ComparisonOperator
  | lessThan => greaterThan
  | lessThanEqualTo => greaterThanEqualTo
  | greaterThan => lessThan
  | greaterThanEqualTo => lessThanEqualTo
  | op => op

/-- Every comparison is listed. -/
theorem mem_all (op : ComparisonOperator) : op ∈ all := by cases op <;> decide

/-- Operands are unequal exactly when they are not equal. -/
theorem holds_ne (order : Option Ordering) :
    notEquals.holds order = !equalTo.holds order := rfl

/-- At most means less or equal. -/
theorem holds_le (order : Option Ordering) :
    lessThanEqualTo.holds order = (lessThan.holds order || equalTo.holds order) := rfl

/-- At least means greater or equal. -/
theorem holds_ge (order : Option Ordering) :
    greaterThanEqualTo.holds order
      = (greaterThan.holds order || equalTo.holds order) := rfl

/-- Turning a comparison around together with its operands changes nothing. -/
theorem holds_swap (op : ComparisonOperator) (order : Option Ordering) :
    op.swap.holds (order.map Ordering.swap) = op.holds order := by
  rcases order with _ | _ | _ | _ <;> cases op <;> rfl

/-- Turning a comparison around twice changes nothing. -/
theorem swap_swap (op : ComparisonOperator) : op.swap.swap = op := by
  cases op <;> rfl

end ComparisonOperator

/-- A connective of two truth values. -/
inductive LogicalOperator
  | and | or
  deriving DecidableEq

namespace LogicalOperator

/-- Both connectives, in the order of the plan encoding. -/
def all : List LogicalOperator := [and, or]

/-- The kind of node that applies a connective. -/
def kind : LogicalOperator → NodeKind
  | and => .and
  | or => .or

/-- The name of a connective. -/
def name (op : LogicalOperator) : String := op.kind.name

/-- The connective of a given name. -/
def ofName? (text : String) : Option LogicalOperator := all.find? (·.name == text)

/-- What a connective makes of two truth values. -/
def apply : LogicalOperator → Bool → Bool → Bool
  | and, a, b => a && b
  | or, a, b => a || b

/-- Every connective is listed. -/
theorem mem_all (op : LogicalOperator) : op ∈ all := by cases op <;> decide

end LogicalOperator

/-- A condition on one operand. -/
inductive UnaryOperator
  | not | isNull | isNotNull
  deriving DecidableEq

namespace UnaryOperator

/-- Every condition, in the order of the plan encoding. -/
def all : List UnaryOperator := [not, isNull, isNotNull]

/-- The kind of node that applies a condition. -/
def kind : UnaryOperator → NodeKind
  | not => .not
  | isNull => .isNull
  | isNotNull => .isNotNull

/-- The name of a condition. -/
def name (op : UnaryOperator) : String := op.kind.name

/-- The condition of a given name. -/
def ofName? (text : String) : Option UnaryOperator := all.find? (·.name == text)

/-- Every condition is listed. -/
theorem mem_all (op : UnaryOperator) : op ∈ all := by cases op <;> decide

end UnaryOperator

end ScanFilter
