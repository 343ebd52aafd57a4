import ScanFilter.Expr
/-!
# Tags of the plan encoding

A choice among several variants is encoded by the place of the chosen one in a
fixed list.  This module names the variants of payloads and of expressions and
gives the lists their order.

* `mem_all` — every variant has a place in its list.
-/

namespace ScanFilter.Plan

/-- The variants of a payload. -/
inductive PayloadTag
  | null | string | short | int | long | double | decimal | time | boolean | binary
  deriving DecidableEq

namespace PayloadTag

/-- The variants of a payload in order. -/
def all : List PayloadTag :=
  [null, string, short, int, long, double, decimal, time, boolean, binary]

/-- The variant of a payload. -/
def ofPayload : Payload → PayloadTag
  | .null => null
  | .string _ => string
  | .short _ => short
  | .int _ => int
  | .long _ => long
  | .double _ => double
  | .decimal _ => decimal
  | .time _ => time
  | .boolean _ => boolean
  | .binary _ => binary

/-- Every variant has a place. -/
theorem mem_all (t : PayloadTag) : t ∈ all := by cases t <;> decide

end PayloadTag

/-- The variants of an expression. -/
inductive ExprTag
  | literal | column | comparison | logical | unary | membership
  deriving DecidableEq

namespace ExprTag

/-- The variants of an expression in order. -/
def all : List ExprTag := [literal, column, comparison, logical, unary, membership]

/-- The variant of an expression. -/
def ofExpr : Expr → ExprTag
  | .literal _ => literal
  | .column _ => column
  | .comparison .. => comparison
  | .logical .. => logical
  | .unary .. => unary
  | .membership .. => membership

/-- Every variant has a place. -/
theorem mem_all (t : ExprTag) : t ∈ all := by cases t <;> decide

end ExprTag

end ScanFilter.Plan
