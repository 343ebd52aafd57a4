import ScanFilter.Expr.Evaluation
import ScanFilter.Proofs.Expr.Nodes
import ScanFilter.Proofs.Outcome
/-!
# Evaluation masks no error

Every node but a membership looks at its operands only after all of them were
evaluated, from left to right.  A null operand, a connective that is decided already,
and a test for null come too late to hide a failing operand.  So a tree without
memberships fails just when one of its nodes does, and with the error of the first of
them, operands counted before the node that they belong to.

* `failure?_eq_findSome?` — the error of a tree is that of its first failing node;
* `eval_masks_no_error` — the same said of values and errors, and that a test for
  null fails only with its operand.
-/

namespace ScanFilter

namespace Outcome

variable {ε α β : Type}

/-- The error of a result, if it is one. -/
def failure? : Except ε α → Option ε
  | .ok _ => none
  | .error e => some e

theorem failure?_eq_none_iff {x : Except ε α} : failure? x = none ↔ ∃ a, x = .ok a := by
  cases x <;> simp [failure?]

theorem failure?_eq_some_iff {x : Except ε α} {e : ε} :
    failure? x = some e ↔ x = .error e := by
  cases x <;> simp [failure?]

/-- A computation that goes on from a result fails with the error of that result, if
there is one. -/
theorem or_failure?_bind (x : Except ε α) (f : α → Except ε β) :
    (failure? x).or (failure? (x >>= f)) = failure? (x >>= f) := by
  cases x <;> rfl

end Outcome

namespace Expr

open Outcome (failure? failure?_eq_none_iff failure?_eq_some_iff or_failure?_bind)

/-- The error of a tree on a row, if it fails there. -/
def failure? (row : Row) (e : Expr) : Option FilterError := Outcome.failure? (e.eval row)

/-- A node that evaluates two operands in turn fails with the first error of them, if
there is one. -/
theorem or_failure?_operands {x y : Except FilterError TypedValue}
    (f : TypedValue → TypedValue → Except FilterError TypedValue) :
    ((Outcome.failure? x).or (Outcome.failure? y)).or
        (Outcome.failure? (do f (← x) (← y)))
      = Outcome.failure? (do f (← x) (← y)) := by
  cases x with
  | error e => rfl
  | ok v => exact or_failure?_bind y (f v)

/-- The error of a tree without memberships is the error of its first node that
fails. -/
theorem failure?_eq_findSome? (row : Row) {e : Expr} (h : e.MembershipFree) :
    e.failure? row = e.nodes.findSome? (failure? row) := by
  -- The nodes of the operands come before the node itself, and by induction the first
  -- error among them is that of the operand.
  induction e using Expr.induction with
  | literal v => simp [nodes]
  | column c => simp [nodes]
  | comparison op a b iha ihb =>
      obtain ⟨ha, hb⟩ := h.comparison
      rw [nodes, List.findSome?_append, List.findSome?_append, ← iha ha, ← ihb hb,
        List.findSome?_singleton]
      unfold failure?
      rw [eval]
      exact (or_failure?_operands _).symm
  | logical op a b iha ihb =>
      obtain ⟨ha, hb⟩ := h.logical
      rw [nodes, List.findSome?_append, List.findSome?_append, ← iha ha, ← ihb hb,
        List.findSome?_singleton]
      unfold failure?
      rw [eval]
      exact (or_failure?_operands _).symm
  | unary op a iha =>
      rw [nodes, List.findSome?_append, ← iha h.unary, List.findSome?_singleton]
      unfold failure?
      rw [eval]
      exact (or_failure?_bind _ _).symm
  | membership a ms negated => cases h.root

/-- A test for null fails just when its operand does, with the same error. -/
theorem eval_nullTest_eq_error_iff {op : UnaryOperator} (hop : op ≠ .not) (a : Expr)
    (row : Row) (err : FilterError) :
    (unary op a).eval row = .error err ↔ a.eval row = .error err := by
  rw [eval]
  cases a.eval row with
  | error e => simp
  | ok v =>
      cases op with
      | not => exact absurd rfl hop
      | isNull => simp [unaryHolds, pure, Except.pure]
      | isNotNull => simp [unaryHolds, pure, Except.pure]

/-- **Evaluation masks no error.**  A tree without memberships has a value on a row
only if all its nodes have.  When it fails, its error is that of the first node that
fails, operands counted before the node they belong to, from left to right.  A test
for null fails just when its operand does. -/
theorem eval_masks_no_error {e : Expr} (h : e.MembershipFree) (row : Row) :
    (∀ v, e.eval row = .ok v → ∀ n ∈ e.nodes, ∃ w, n.eval row = .ok w) ∧
    (∀ err, e.eval row = .error err → ∃ before n after,
      e.nodes = before ++ n :: after ∧ (∀ m ∈ before, ∃ w, m.eval row = .ok w) ∧
      n.eval row = .error err) ∧
    (∀ op a err, op ≠ UnaryOperator.not →
      ((unary op a).eval row = .error err ↔ a.eval row = .error err)) := by
  have first := failure?_eq_findSome? row h
  refine ⟨?_, ?_, fun op a err hop => eval_nullTest_eq_error_iff hop a row err⟩
  · intro v hv n hn
    have none : e.failure? row = none := failure?_eq_none_iff.mpr ⟨v, hv⟩
    rw [none] at first
    exact failure?_eq_none_iff.mp (List.findSome?_eq_none_iff.mp first.symm n hn)
  · intro err herr
    have some : e.failure? row = some err := failure?_eq_some_iff.mpr herr
    rw [some] at first
    obtain ⟨before, n, after, parts, hn, hbefore⟩ :=
      List.findSome?_eq_some_iff.mp first.symm
    refine ⟨before, n, after, parts, ?_, failure?_eq_some_iff.mp hn⟩
    intro m hm
    exact failure?_eq_none_iff.mp (hbefore m hm)

/-- A filter whose second operand asks for a column that is missing from short rows.
The first operand decides the connective, the other operand of the comparison is
null, and a test for null is above all that. -/
def shadowedFilter : Expr :=
  .unary .isNull
    (.logical .and (.literal (.boolean false))
      (.comparison .equalTo (.literal .null) (.column ⟨9, none⟩)))

/-- On a row of one column it fails at the missing column. -/
theorem eval_shadowedFilter_masks_no_error :
    shadowedFilter.MembershipFree ∧ ∃ before n after,
      shadowedFilter.nodes = before ++ n :: after ∧
      (∀ m ∈ before, ∃ w, m.eval [.int 1] = .ok w) ∧
      n.eval [.int 1] = .error (.columnOutOfBounds 9 1) :=
  ⟨by decide, (eval_masks_no_error (by decide) [.int 1]).2.1 _ rfl⟩

end Expr

end ScanFilter
