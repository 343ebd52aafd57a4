import ScanFilter.Expr.Evaluation
import ScanFilter.Proofs.Outcome
/-!
# Members one after the other

What a list of members says about a probe is put together from what each of them says
alone: an equal member that the probe is found, a null that nothing is sure, and any
other value that the probe is absent.  After a null the search goes on, since an equal
member may follow.  At an equal member it stops, so that the members behind it are not
asked and cannot fail.  About a null probe nothing is sure, whatever the members.

* `said`, `answer` — what a member says alone, and what a list says;
* `search_cons`, `answer_append` — a member and a list, and two lists;
* `eval_append_of_answer`, `eval_append_of_error` — a membership in two lists, the first
  of which has an answer or fails;
* `eval_membership_append` — memberships in two lists, one after the other.
-/

namespace ScanFilter

namespace Membership

/-- What a list says together with what is behind it, which is not asked after an equal
member. -/
def andThen : Membership → Except FilterError Membership → Except FilterError Membership
  | found, _ => .ok found
  | absent, rest => rest
  | unsure, rest => rest.map afterNull

/-- Of three lists it does not matter which two are taken together first. -/
theorem andThen_bind_andThen (x : Membership) (rest last : Except FilterError Membership) :
    (x.andThen rest >>= fun y => y.andThen last)
      = x.andThen (rest >>= fun y => y.andThen last) := by
  cases x with
  | found => rfl
  | absent => rfl
  | unsure =>
      rcases rest with err | y
      · rfl
      cases y with
      | found => rfl
      | absent => rfl
      | unsure =>
          -- A second null adds nothing to the first one.
          rcases last with err | z
          · rfl
          · cases z <;> rfl

variable {x : Membership}

theorem holds_false_iff : x.holds false = true ↔ x = found := beq_iff_eq

theorem holds_true_iff : x.holds true = true ↔ x = absent := beq_iff_eq

theorem eq_unsure_of_holds (inside : x.holds false = false) (outside : x.holds true = false) :
    x = unsure := by
  cases x with
  | found => cases inside
  | absent => cases outside
  | unsure => rfl

/-- A null in front changes nothing for a probe that is to be in the list. -/
theorem holds_false_afterNull (x : Membership) : x.afterNull.holds false = x.holds false := by
  cases x <;> rfl

/-- A null in front keeps a probe from being outside of the list. -/
theorem holds_true_afterNull (x : Membership) : x.afterNull.holds true = false := by
  cases x <;> rfl

end Membership

namespace Expr

/-- What a member alone says about a probe that is not null. -/
def said (row : Row) (probe : TypedValue) (m : Expr) : Except FilterError Membership := do
  let member ← m.eval row
  if member.isNull then return .unsure
  return if ← compareValues .equalTo probe member then .found else .absent

/-- What a list of members says about the value of a probe; about a null it is unsure. -/
def answer (row : Row) (e : Expr) (ms : List Expr) : Except FilterError Membership := do
  let probe ← e.eval row
  if probe.isNull then return .unsure
  search row probe ms

/-- A list says what its first member says together with the others behind it. -/
theorem search_cons (row : Row) (probe : TypedValue) (m : Expr) (ms : List Expr) :
    search row probe (m :: ms)
      = said row probe m >>= fun x => x.andThen (search row probe ms) := by
  rw [search]
  unfold said
  rcases m.eval row with err | member
  · rfl
  simp only [Outcome.ok_bind]
  by_cases null : member.isNull = true
  · rw [if_pos null, if_pos null]
    rcases search row probe ms with err | y <;> rfl
  · rw [if_neg null, if_neg null]
    rcases compareValues .equalTo probe member with err | equal
    · rfl
    · cases equal <;> rfl

/-- Two lists in a row say what the first one says together with the second one. -/
theorem search_append (row : Row) (probe : TypedValue) (l r : List Expr) :
    search row probe (l ++ r)
      = search row probe l >>= fun x => x.andThen (search row probe r) := by
  induction l with
  | nil =>
      rw [search]
      rfl
  | cons m l ih =>
      rw [List.cons_append, search_cons, search_cons, ih]
      rcases said row probe m with err | x
      · rfl
      · exact (x.andThen_bind_andThen _ _).symm

theorem answer_append (row : Row) (e : Expr) (l r : List Expr) :
    answer row e (l ++ r) = answer row e l >>= fun x => x.andThen (answer row e r) := by
  unfold answer
  rcases e.eval row with err | probe
  · rfl
  simp only [Outcome.ok_bind]
  by_cases null : probe.isNull = true
  · rw [if_pos null, if_pos null, if_pos null]
    rfl
  · rw [if_neg null, if_neg null, if_neg null, search_append]

/-- A membership holds if what its list says about the probe makes it hold. -/
theorem eval_membership (row : Row) (e : Expr) (ms : List Expr) (negated : Bool) :
    (membership e ms negated).eval row
      = (answer row e ms).map fun x => .boolean (x.holds negated) := by
  rw [eval]
  unfold answer
  rcases e.eval row with err | probe
  · rfl
  simp only [Outcome.ok_bind]
  by_cases null : probe.isNull = true
  · rw [if_pos null, if_pos null]
    cases negated <;> rfl
  · rw [if_neg null, if_neg null]
    rcases search row probe ms with err | x <;> rfl

section

variable {row : Row} {e : Expr} {ms l : List Expr} {negated b : Bool} {err : FilterError}
  {x : Membership}

theorem eval_membership_eq_ok_iff : (membership e ms negated).eval row = .ok (.boolean b) ↔
    ∃ x, answer row e ms = .ok x ∧ x.holds negated = b := by
  rw [eval_membership]
  cases answer row e ms with
  | error err => simp [Except.map]
  | ok x => simp [Except.map, TypedValue.boolean]

theorem eval_membership_eq_error_iff : (membership e ms negated).eval row = .error err ↔
    answer row e ms = .error err := by
  rw [eval_membership]
  cases answer row e ms <;> simp [Except.map]

/-- Behind a list with an answer, the second list is asked as that answer has it. -/
theorem eval_append_of_answer (h : answer row e l = .ok x) (r : List Expr) (negated : Bool) :
    (membership e (l ++ r) negated).eval row
      = (x.andThen (answer row e r)).map fun y => .boolean (y.holds negated) := by
  rw [eval_membership, answer_append, h, Outcome.ok_bind]

/-- A list that fails fails with everything behind it. -/
theorem eval_append_of_error (h : (membership e l negated).eval row = .error err)
    (r : List Expr) : (membership e (l ++ r) negated).eval row = .error err := by
  rw [eval_membership_eq_error_iff] at h ⊢
  rw [answer_append, h, Outcome.error_bind]

end

/-- **Membership in two lists, one after the other.**  A probe in the first list is in
both together, whatever would fail in the second one.  A failure in the first list is
that of both together.  For a probe that is not in the first list, the second one
decides; and for one that is outside of the first list it decides whether the probe is
outside of both.  A probe that is neither in the first list nor outside of it is not
outside of both, unless the second list fails. -/
theorem eval_membership_append (row : Row) (e : Expr) (l r : List Expr) :
    let isIn := fun ms => (membership e ms false).eval row
    let notIn := fun ms => (membership e ms true).eval row
    (isIn l = .ok (.boolean true) → isIn (l ++ r) = .ok (.boolean true)) ∧
    (∀ err, isIn l = .error err → isIn (l ++ r) = .error err) ∧
    (isIn l = .ok (.boolean false) → isIn (l ++ r) = isIn r) ∧
    (isIn l = .ok (.boolean true) → notIn (l ++ r) = .ok (.boolean false)) ∧
    (∀ err, notIn l = .error err → notIn (l ++ r) = .error err) ∧
    (notIn l = .ok (.boolean true) → notIn (l ++ r) = notIn r) ∧
    (notIn l = .ok (.boolean false) → isIn l = .ok (.boolean false) →
      (∀ v, notIn r = .ok v → notIn (l ++ r) = .ok (.boolean false)) ∧
      (∀ err, notIn r = .error err → notIn (l ++ r) = .error err)) := by
  intro isIn notIn
  have found : isIn l = .ok (.boolean true) → answer row e l = .ok .found := by
    intro h
    obtain ⟨x, first, holds⟩ := eval_membership_eq_ok_iff.mp h
    rw [first, Membership.holds_false_iff.mp holds]
  refine ⟨fun h => eval_append_of_answer (found h) r false, fun err h => eval_append_of_error h r,
    fun h => ?_, fun h => eval_append_of_answer (found h) r true,
    fun err h => eval_append_of_error h r, fun h => ?_, fun h h' => ?_⟩
  · obtain ⟨x, first, holds⟩ := eval_membership_eq_ok_iff.mp h
    have whole := eval_append_of_answer first r false
    have second := eval_membership row e r false
    cases x with
    | found => cases holds
    | absent => exact whole.trans second.symm
    | unsure =>
        refine whole.trans (Eq.trans ?_ second.symm)
        rcases answer row e r with err | y
        · rfl
        · exact congrArg (fun b => Except.ok (TypedValue.boolean b)) y.holds_false_afterNull
  · obtain ⟨x, first, holds⟩ := eval_membership_eq_ok_iff.mp h
    cases Membership.holds_true_iff.mp holds
    exact (eval_append_of_answer first r true).trans (eval_membership row e r true).symm
  · obtain ⟨x, first, outside⟩ := eval_membership_eq_ok_iff.mp h
    obtain ⟨x', first', inside⟩ := eval_membership_eq_ok_iff.mp h'
    cases first.symm.trans first'
    cases Membership.eq_unsure_of_holds inside outside
    have whole := eval_append_of_answer first r true
    refine ⟨fun v value => ?_, fun err failure => ?_⟩
    · rw [show notIn r = _ from eval_membership row e r true] at value
      rcases second : answer row e r with err | y
      · rw [second] at value
        cases value
      · rw [second] at whole
        exact whole.trans
          (congrArg (fun b => Except.ok (TypedValue.boolean b)) y.holds_true_afterNull)
    · rw [eval_membership_eq_error_iff.mp failure] at whole
      exact whole

end Expr

end ScanFilter
