import ScanFilter.Operator
import ScanFilter.Value
/-!
# Filter expressions

A filter is a tree over literals and columns: comparisons, connectives,
conditions on one operand, and membership in a list of members.

* `kind` — what the root of a tree does;
* `same` — equality of trees, literals compared as values;
* `size_pos` — a tree has at least one node.
-/

namespace ScanFilter

/-- A reference to a column by its place in the row, with a name that is only
shown. -/
structure Column where
  index : UInt64
  label : Option String
  deriving DecidableEq

/-- A filter expression. -/
inductive Expr
  | literal (value : TypedValue)
  | column (column : Column)
  | comparison (op : ComparisonOperator) (left right : Expr)
  | logical (op : LogicalOperator) (left right : Expr)
  | unary (op : UnaryOperator) (operand : Expr)
  /-- Whether the probe is, or with `negated` is not, among the members. -/
  | membership (probe : Expr) (members : List Expr) (negated : Bool)

namespace Expr

/-- What the root of a tree does. -/
def kind : Expr → NodeKind
  | literal _ => .literal
  | column _ => .column
  | comparison op _ _ => op.kind
  | logical op _ _ => op.kind
  | unary op _ => op.kind
  | membership _ _ false => .isIn
  | membership _ _ true => .notIn

mutual

/-- Whether two trees are equal: the same nodes over columns with the same index
and label, and literals of one type that are the same value. -/
def same : Expr → Expr → Bool
  | literal v, literal w => v.same w
  | column c, column d => c == d
  | comparison op a b, comparison op' a' b' => op == op' && same a a' && same b b'
  | logical op a b, logical op' a' b' => op == op' && same a a' && same b b'
  | unary op a, unary op' a' => op == op' && same a a'
  | membership a ms negated, membership a' ms' negated' =>
    same a a' && sameMembers ms ms' && negated == negated'
  | _, _ => false

/-- Whether two lists of trees are equal, tree by tree. -/
def sameMembers : List Expr → List Expr → Bool
  | [], [] => true
  | a :: as, b :: bs => same a b && sameMembers as bs
  | _, _ => false

end

mutual

/-- How many nodes a tree has. -/
def size : Expr → Nat
  | literal _ => 1
  | column _ => 1
  | comparison _ a b => 1 + size a + size b
  | logical _ a b => 1 + size a + size b
  | unary _ a => 1 + size a
  | membership a ms _ => 1 + size a + sizeMembers ms

/-- How many nodes a list of trees has. -/
def sizeMembers : List Expr → Nat
  | [] => 0
  | a :: as => size a + sizeMembers as

end

/-- A tree has at least one node. -/
theorem size_pos (e : Expr) : 0 < e.size := by
  cases e <;> simp only [size] <;> omega

end Expr

end ScanFilter
