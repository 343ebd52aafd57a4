import ScanFilter.Expr
import ScanFilter.Value.Text
/-!
# Descriptions of filters

A filter is shown as the names of its operators applied to their operands, with
nothing between them but parentheses and commas.

* `describe` — the description of a tree.
-/

namespace ScanFilter

/-- What a column is shown as: its label, or its number. -/
def Column.text (c : Column) : String :=
  c.label.getD ("#" ++ integerText c.index.toNat)

namespace Expr

/-- A name applied to operands. -/
def applied (name : String) (operands : List String) : String :=
  name ++ "(" ++ ",".intercalate operands ++ ")"

mutual

/-- The description of a tree. -/
def describe : Expr → String
  | literal v => applied "Literal" [v.text]
  | column c => applied "Column" [c.text]
  | comparison op a b => applied op.name [describe a, describe b]
  | logical op a b => applied op.name [describe a, describe b]
  | unary op a => applied op.name [describe a]
  | membership a ms negated =>
    applied (if negated then NodeKind.notIn.name else NodeKind.isIn.name)
      [describe a, applied "List" (describeMembers ms)]

/-- The descriptions of a list of trees. -/
def describeMembers : List Expr → List String
  | [] => []
  | a :: as => describe a :: describeMembers as

end

end Expr

end ScanFilter
