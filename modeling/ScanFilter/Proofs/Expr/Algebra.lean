import ScanFilter.Proofs.Expr.Conditional
/-!
# Conditionals form a Boolean algebra

Null leaves break the laws of Boolean algebra: a null counts as false, and it is true
when it is negated twice.  Conditionals are never null, so for them the laws hold, and
they hold for failures as well.  A connective asks both operands, and fails with the
first failure.  Both sides of a law ask in one order, with repetitions, so they meet the
same failure first.  Only commuting and absorbing change what is asked first, and there
both operands must have a value.

* `map_not_both`, `both_assoc`, `both_distrib`, `both_self` — the laws of answers that
  may be failures;
* `eval_boolean_algebra` — the laws of conditionals.
-/

namespace ScanFilter

namespace LogicalOperator

/-- The other connective. -/
def dual : LogicalOperator → LogicalOperator
  | and => or
  | or => and

section Laws

variable (op : LogicalOperator)

theorem not_apply (a b : Bool) : (!op.apply a b) = op.dual.apply (!a) (!b) := by
  cases op with
  | and => exact Bool.not_and a b
  | or => exact Bool.not_or a b

theorem apply_assoc (a b c : Bool) : op.apply (op.apply a b) c = op.apply a (op.apply b c) := by
  cases op with
  | and => exact Bool.and_assoc a b c
  | or => exact Bool.or_assoc a b c

theorem apply_comm (a b : Bool) : op.apply a b = op.apply b a := by
  cases op with
  | and => exact Bool.and_comm a b
  | or => exact Bool.or_comm a b

theorem apply_self (a : Bool) : op.apply a a = a := by
  cases op with
  | and => exact Bool.and_self a
  | or => exact Bool.or_self a

theorem apply_distrib (a b c : Bool) :
    op.apply a (op.dual.apply b c) = op.dual.apply (op.apply a b) (op.apply a c) := by
  cases op with
  | and => exact Bool.and_or_distrib_left a b c
  | or => exact Bool.or_and_distrib_left a b c

theorem apply_absorb (a b : Bool) : op.apply a (op.dual.apply a b) = a := by
  cases op <;> cases a <;> rfl

variable (x y z : Except FilterError Bool)

/-- A connective is negated by negating its operands and exchanging it for the other. -/
theorem map_not_both :
    (op.both x y).map not = op.dual.both (x.map not) (y.map not) := by
  cases x with
  | error err => rfl
  | ok a =>
      cases y with
      | error err => rfl
      | ok b => exact congrArg Except.ok (op.not_apply a b)

theorem both_assoc : op.both (op.both x y) z = op.both x (op.both y z) := by
  cases x with
  | error err => rfl
  | ok a =>
      cases y with
      | error err => rfl
      | ok b =>
          cases z with
          | error err => rfl
          | ok c => exact congrArg Except.ok (op.apply_assoc a b c)

/-- A connective distributes over the other one: asking the first operand twice comes
to no new failure. -/
theorem both_distrib :
    op.both x (op.dual.both y z) = op.dual.both (op.both x y) (op.both x z) := by
  cases x with
  | error err => rfl
  | ok a =>
      cases y with
      | error err => rfl
      | ok b =>
          cases z with
          | error err => rfl
          | ok c => exact congrArg Except.ok (op.apply_distrib a b c)

theorem both_self : op.both x x = x := by
  cases x with
  | error err => rfl
  | ok a => exact congrArg Except.ok (op.apply_self a)

theorem map_not_not : (x.map not).map not = x := by
  cases x with
  | error err => rfl
  | ok a => exact congrArg Except.ok (Bool.not_not a)

/-- Of two answers that are no failures it does not matter which is asked first. -/
theorem both_comm_of_ok (a b : Bool) : op.both (.ok a) (.ok b) = op.both (.ok b) (.ok a) :=
  congrArg Except.ok (op.apply_comm a b)

theorem both_absorb_of_ok (a b : Bool) :
    op.both (.ok a) (op.dual.both (.ok a) (.ok b)) = .ok a :=
  congrArg Except.ok (op.apply_absorb a b)

end Laws

end LogicalOperator

namespace Expr

/-- A conditional that has a value answers. -/
theorem truth_of_eval {row : Row} {a : Expr} {x : Except FilterError Bool} {v : TypedValue}
    (h : a.eval row = x.map .boolean) (value : a.eval row = .ok v) : ∃ b, x = .ok b := by
  cases x with
  | error err =>
      rw [h] at value
      cases value
  | ok b => exact ⟨b, rfl⟩

/-- A negated test for null is the opposite test, whatever it is asked of. -/
theorem eval_not_isNull (row : Row) (e : Expr) :
    (unary .not (unary .isNull e)).eval row = (unary .isNotNull e).eval row := by
  rw [eval_not_of_truth (eval_isNull row e), eval_isNotNull]
  cases e.eval row <;> rfl

/-- **Conditionals form a Boolean algebra.**  On every row, conditionals have the same
truth value, or the same failure, on both sides of the laws of De Morgan, of the double
negation, of association, of distribution and of repetition, for each connective.
Two that both have a value commute, and each absorbs the other.  A negated test for null
is the opposite test, be it of a conditional or not. -/
theorem eval_boolean_algebra (row : Row) {p q r : Expr} (hp : p.isLeaf = false)
    (hq : q.isLeaf = false) (hr : r.isLeaf = false) :
    (∀ op : LogicalOperator, (unary .not (logical op p q)).eval row
      = (logical op.dual (unary .not p) (unary .not q)).eval row) ∧
    (unary .not (unary .not p)).eval row = p.eval row ∧
    (∀ op, (logical op (logical op p q) r).eval row
      = (logical op p (logical op q r)).eval row) ∧
    (∀ op : LogicalOperator, (logical op p (logical op.dual q r)).eval row
      = (logical op.dual (logical op p q) (logical op p r)).eval row) ∧
    (∀ op, (logical op p p).eval row = p.eval row) ∧
    (∀ v w, p.eval row = .ok v → q.eval row = .ok w → ∀ op : LogicalOperator,
      (logical op p q).eval row = (logical op q p).eval row ∧
      (logical op p (logical op.dual p q)).eval row = p.eval row) ∧
    (∀ e, (unary .not (unary .isNull e)).eval row = (unary .isNotNull e).eval row) := by
  obtain ⟨x, hx⟩ := eval_of_not_leaf hp row
  obtain ⟨y, hy⟩ := eval_of_not_leaf hq row
  obtain ⟨z, hz⟩ := eval_of_not_leaf hr row
  refine ⟨fun op => ?_, ?_, fun op => ?_, fun op => ?_, fun op => ?_, ?_, eval_not_isNull row⟩
  · rw [eval_not_of_truth (eval_logical_of_truth hx hy op),
      eval_logical_of_truth (eval_not_of_truth hx) (eval_not_of_truth hy), op.map_not_both]
  · rw [eval_not_of_truth (eval_not_of_truth hx), LogicalOperator.map_not_not, hx]
  · rw [eval_logical_of_truth (eval_logical_of_truth hx hy op) hz,
      eval_logical_of_truth hx (eval_logical_of_truth hy hz op), op.both_assoc]
  · rw [eval_logical_of_truth hx (eval_logical_of_truth hy hz op.dual),
      eval_logical_of_truth (eval_logical_of_truth hx hy op) (eval_logical_of_truth hx hz op),
      op.both_distrib]
  · rw [eval_logical_of_truth hx hx, op.both_self, hx]
  · intro v w hv hw op
    obtain ⟨a, rfl⟩ := truth_of_eval hx hv
    obtain ⟨b, rfl⟩ := truth_of_eval hy hw
    constructor
    · rw [eval_logical_of_truth hx hy, eval_logical_of_truth hy hx, op.both_comm_of_ok]
    · rw [eval_logical_of_truth hx (eval_logical_of_truth hx hy op.dual),
        op.both_absorb_of_ok, hx]

/-- Whether the name, the first column, is among a null and a literal. -/
def isNamed : Expr :=
  .membership (.column ⟨0, some "name"⟩) [.literal .null, .literal (.string "new")] false

/-- Whether the price, the second column, is below ten. -/
def isCheap : Expr := .comparison .lessThan (.column ⟨1, some "price"⟩) (.literal (.int 10))

/-- Whether there is a rating, the third column. -/
def isRated : Expr := .unary .isNotNull (.column ⟨2, some "rating"⟩)

/-- A row that lost its price and has no third column. -/
def shortRow : Row := [.string "new", ⟨.int, .null⟩]

/-- On the short row the last of three conditionals fails, and so do both sides of the
law of distribution; the first two have values, and they commute. -/
theorem eval_boolean_algebra_shortRow :
    isNamed.isLeaf = false ∧ isCheap.isLeaf = false ∧ isRated.isLeaf = false ∧
    isRated.eval shortRow = .error (.columnOutOfBounds 2 2) ∧
    (logical .and isNamed (logical .or isCheap isRated)).eval shortRow
      = (logical .or (logical .and isNamed isCheap) (logical .and isNamed isRated)).eval
          shortRow ∧
    isNamed.eval shortRow = .ok (.boolean true) ∧
    isCheap.eval shortRow = .ok (.boolean false) ∧
    (logical .or isNamed isCheap).eval shortRow
      = (logical .or isCheap isNamed).eval shortRow := by
  obtain ⟨_, _, _, distrib, _, values, _⟩ :=
    @eval_boolean_algebra shortRow isNamed isCheap isRated rfl rfl rfl
  have named : isNamed.eval shortRow = .ok (.boolean true) := rfl
  have cheap : isCheap.eval shortRow = .ok (.boolean false) := rfl
  exact ⟨rfl, rfl, rfl, rfl, distrib .and, named, cheap, (values _ _ named cheap .or).1⟩

end Expr

end ScanFilter
