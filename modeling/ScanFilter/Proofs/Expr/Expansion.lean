import ScanFilter.Proofs.Comparison.Laws
import ScanFilter.Proofs.Expr.Algebra
import ScanFilter.Proofs.Expr.Members
/-!
# What a membership stands for

To be among members is to be equal to one of them, and to be outside is to be unequal to
each of them.  Both can be written out as a tree of comparisons, joined to a test that
the probe is not null.  The tree asks every member, and the membership stops at the
first equal one.  So wherever the tree has a value, the membership has the same one; and
wherever the membership fails, the tree fails alike, but that a comparison which no type
supports is named for what it asks.

* `expansion` — the tree of comparisons that a membership stands for;
* `WrittenOut` — what a list says against what its comparisons say;
* `writtenOut_search`, `writtenOut_answer` — a list and its comparisons;
* `search_congr` — members that do not fail, in any order and number;
* `eval_membership_expansion` — a membership and what it stands for.
-/

namespace ScanFilter

namespace Membership

/-- What two lists say together. -/
def join : Membership → Membership → Membership
  | found, _ => found
  | absent, y => y
  | unsure, y => y.afterNull

variable {x y : Membership}

theorem andThen_ok (x y : Membership) : x.andThen (.ok y) = .ok (x.join y) := by
  cases x <;> rfl

theorem join_eq_found_iff : x.join y = found ↔ x = found ∨ y = found := by
  cases x <;> cases y <;> decide

theorem join_eq_absent_iff : x.join y = absent ↔ x = absent ∧ y = absent := by
  cases x <;> cases y <;> decide

theorem eq_of_iff (hf : x = found ↔ y = found) (ha : x = absent ↔ y = absent) : x = y := by
  cases x with
  | found => exact (hf.mp rfl).symm
  | absent => exact (ha.mp rfl).symm
  | unsure =>
      cases y with
      | found => cases hf.mpr rfl
      | absent => cases ha.mpr rfl
      | unsure => rfl

end Membership

/-- The connective that joins the comparisons of a membership. -/
def memberConnective (negated : Bool) : LogicalOperator := if negated then .and else .or

/-- The comparison of a membership with each of its members. -/
def memberComparison (negated : Bool) : ComparisonOperator :=
  if negated then .notEquals else .equalTo

/-- What holds of no members makes no difference to the connective of a membership. -/
theorem both_memberConnective (negated : Bool) (x : Except FilterError Bool) :
    (memberConnective negated).both (.ok negated) x = x ∧
    (memberConnective negated).both x (.ok negated) = x := by
  cases x with
  | error err => exact ⟨rfl, rfl⟩
  | ok b => cases negated <;> cases b <;> exact ⟨rfl, rfl⟩

/-- Two lists make a membership hold as the connective makes it of each of them. -/
theorem Membership.holds_join (negated : Bool) (x y : Membership) :
    (x.join y).holds negated
      = (memberConnective negated).apply (x.holds negated) (y.holds negated) := by
  cases negated <;> cases x <;> cases y <;> rfl

/-- Two values are unequal where they are not equal, and where the one comparison fails
the other one fails under its own name. -/
theorem compareValues_notEquals (l r : TypedValue) :
    Outcome.Related (fun err err' => err' = err.withOperator .notEquals)
      (fun equal unequal => unequal = !equal)
      (compareValues .equalTo l r) (compareValues .notEquals l r) := by
  cases h : compareValues .equalTo l r with
  | error err =>
      rw [compareValues_error h .notEquals]
      exact .error rfl
  | ok equal =>
      obtain ⟨order, some, rfl⟩ := order_of_compareValues h
      rw [compareValues_of_order some]
      exact .ok (ComparisonOperator.holds_ne order)

/-- Whether an error is that of a membership written out: the same one, or that of a
comparison for being unequal. -/
def FilterError.ExpandsTo (negated : Bool) (err err' : FilterError) : Prop :=
  err' = err ∨ (negated = true ∧ err' = err.withOperator .notEquals)

/-- Whether two values are equal, against their comparison in a membership. -/
theorem related_memberComparison (negated : Bool) (l r : TypedValue) :
    Outcome.Related (FilterError.ExpandsTo negated)
      (fun equal b => b = (if equal then Membership.found else .absent).holds negated)
      (compareValues .equalTo l r) (compareValues (memberComparison negated) l r) := by
  cases negated with
  | false =>
      refine .refl (fun err => .inl rfl) (fun equal => ?_) (compareValues .equalTo l r)
      cases equal <;> rfl
  | true =>
      change Outcome.Related _ _ _ (compareValues .notEquals l r)
      have opposite := compareValues_notEquals l r
      generalize compareValues .equalTo l r = equal? at opposite ⊢
      generalize compareValues .notEquals l r = unequal? at opposite ⊢
      cases opposite with
      | error h => exact .error (.inr ⟨rfl, h⟩)
      | @ok equal unequal h =>
          refine .ok ?_
          rw [h]
          cases equal <;> rfl

/-- What a list says against what comparisons with its members say.  These fail where the
list does, and they may fail where it does not, at a member that was not asked. -/
inductive WrittenOut (negated : Bool) :
    Except FilterError Membership → Except FilterError Bool → Prop
  | ok (x : Membership) : WrittenOut negated (.ok x) (.ok (x.holds negated))
  | error {err err' : FilterError} (h : err.ExpandsTo negated err') :
      WrittenOut negated (.error err) (.error err')
  | unasked (x : Membership) (err : FilterError) : WrittenOut negated (.ok x) (.error err)

section

variable {negated : Bool} {x? : Except FilterError Membership} {b? : Except FilterError Bool}

/-- Where the comparisons have a value, the membership has it too. -/
theorem WrittenOut.value (h : WrittenOut negated x? b?) {v : TypedValue}
    (value : b?.map .boolean = .ok v) :
    x?.map (fun x => TypedValue.boolean (x.holds negated)) = .ok v := by
  cases h with
  | ok x => exact value
  | error h => cases value
  | unasked x err => cases value

/-- Where the membership fails, the comparisons fail alike. -/
theorem WrittenOut.failure (h : WrittenOut negated x? b?) {err : FilterError}
    (failure : x?.map (fun x => TypedValue.boolean (x.holds negated)) = .error err) :
    ∃ err', b?.map TypedValue.boolean = .error err' ∧ err.ExpandsTo negated err' := by
  cases h with
  | ok x => cases failure
  | @error _ err' h =>
      cases failure
      exact ⟨err', rfl, h⟩
  | unasked x err => cases failure

/-- A member in front of a list against a comparison in front of the others. -/
theorem WrittenOut.andThen (h : WrittenOut negated x? b?) (x : Membership) :
    WrittenOut negated (x.andThen x?)
      ((memberConnective negated).both (.ok (x.holds negated)) b?) := by
  cases h with
  | ok y =>
      have together : (memberConnective negated).both (.ok (x.holds negated))
          (.ok (y.holds negated)) = .ok ((x.join y).holds negated) :=
        congrArg Except.ok (x.holds_join negated y).symm
      rw [x.andThen_ok, together]
      exact .ok (x.join y)
  | unasked y err =>
      rw [x.andThen_ok]
      exact .unasked _ err
  | error h =>
      -- Only behind an equal member the failure is not met.
      cases x with
      | found => exact .unasked .found _
      | absent => exact .error h
      | unsure => exact .error h

end

namespace Expr

/-- A tree joined to comparisons of a probe with members, one after the other. -/
def joined (negated : Bool) (e tree : Expr) (ms : List Expr) : Expr :=
  ms.foldl (fun tree m => logical (memberConnective negated) tree
    (comparison (memberComparison negated) e m)) tree

/-- What stands in front of the comparisons: the probe is not null, and if it is to be
equal to some member, nothing is true yet. -/
def opening (e : Expr) : Bool → Expr
  | false => logical .and (unary .isNotNull e) (literal (.boolean false))
  | true => unary .isNotNull e

/-- The tree of comparisons that a membership stands for. -/
def expansion (e : Expr) (ms : List Expr) (negated : Bool) : Expr :=
  joined negated e (opening e negated) ms

example (e m n : Expr) : expansion e [m, n] false
    = logical .or (logical .or (logical .and (unary .isNotNull e) (literal (.boolean false)))
        (comparison .equalTo e m)) (comparison .equalTo e n) := rfl

example (e m n : Expr) : expansion e [m, n] true
    = logical .and (logical .and (unary .isNotNull e) (comparison .notEquals e m))
        (comparison .notEquals e n) := rfl

/-- What a comparison of a probe with a member says. -/
def compared (row : Row) (negated : Bool) (e m : Expr) : Except FilterError Bool := do
  let probe ← e.eval row
  let member ← m.eval row
  comparisonHolds (memberComparison negated) probe member

/-- What comparisons with all members say together. -/
def comparedAll (row : Row) (negated : Bool) (e : Expr) : List Expr → Except FilterError Bool
  | [] => .ok negated
  | m :: ms => (memberConnective negated).both (compared row negated e m)
      (comparedAll row negated e ms)

variable {row : Row} {negated : Bool} {e m tree : Expr} {ms : List Expr} {v : TypedValue}

theorem eval_comparison (row : Row) (negated : Bool) (e m : Expr) :
    (comparison (memberComparison negated) e m).eval row
      = (compared row negated e m).map .boolean := by
  rw [eval]
  unfold compared
  rcases e.eval row with err | probe
  · rfl
  rcases m.eval row with err | member
  · rfl
  simp only [Outcome.ok_bind]
  cases comparisonHolds (memberComparison negated) probe member <;> rfl

theorem eval_joined {x : Except FilterError Bool} (h : tree.eval row = x.map .boolean) :
    (joined negated e tree ms).eval row
      = ((memberConnective negated).both x (comparedAll row negated e ms)).map .boolean := by
  -- The tree grows at its root, and what it says grows with it.
  induction ms generalizing tree x with
  | nil =>
      rw [comparedAll, (both_memberConnective negated x).2]
      exact h
  | cons m ms ih =>
      have next := eval_logical_of_truth h (eval_comparison row negated e m)
        (memberConnective negated)
      rw [comparedAll, ← LogicalOperator.both_assoc]
      exact ih next

theorem eval_opening (row : Row) (e : Expr) (negated : Bool) :
    (opening e negated).eval row
      = ((e.eval row).map fun v => negated && !v.isNull).map .boolean := by
  cases negated with
  | true =>
      rw [opening, eval_isNotNull]
      cases e.eval row <;> rfl
  | false =>
      have nothing : (literal (.boolean false)).eval row
          = (Except.ok false : Except FilterError Bool).map .boolean := by
        rw [eval]
        rfl
      rw [opening, eval_logical_of_truth (eval_isNotNull row e) nothing]
      rcases e.eval row with err | v
      · rfl
      · exact congrArg (fun b => Except.ok (TypedValue.boolean b)) (Bool.and_false _)

/-- What a member says alone against a comparison with it. -/
theorem related_said (notNull : v.isNull = false) (he : e.eval row = .ok v) (negated : Bool)
    (m : Expr) :
    Outcome.Related (FilterError.ExpandsTo negated) (fun x b => b = x.holds negated)
      (said row v m) (compared row negated e m) := by
  unfold said compared
  rw [he]
  simp only [Outcome.ok_bind]
  rcases m.eval row with err | w
  · exact .error (.inl rfl)
  simp only [Outcome.ok_bind]
  by_cases null : w.isNull = true
  · rw [if_pos null, comparisonHolds_null (.inr null)]
    refine .ok ?_
    cases negated <;> rfl
  · have both : ¬ (v.isNull || w.isNull) = true := by
      rw [notNull]
      exact null
    rw [if_neg null]
    unfold comparisonHolds
    rw [if_neg both]
    have compares := related_memberComparison negated v w
    generalize compareValues .equalTo v w = equal? at compares ⊢
    generalize compareValues (memberComparison negated) v w = outcome? at compares ⊢
    cases compares with
    | error h => exact .error h
    | ok h => exact .ok h

/-- A list against comparisons of a probe that is not null with its members. -/
theorem writtenOut_search (notNull : v.isNull = false) (he : e.eval row = .ok v)
    (negated : Bool) (ms : List Expr) :
    WrittenOut negated (search row v ms) (comparedAll row negated e ms) := by
  induction ms with
  | nil =>
      have nothing : negated = Membership.absent.holds negated := by cases negated <;> rfl
      rw [search, comparedAll]
      nth_rewrite 2 [nothing]
      exact .ok .absent
  | cons m ms ih =>
      have first := related_said notNull he negated m
      rw [search_cons, comparedAll]
      generalize said row v m = x? at first ⊢
      generalize compared row negated e m = b? at first ⊢
      cases first with
      | error h => exact .error h
      | @ok x b h =>
          subst h
          exact ih.andThen x

/-- Comparisons of a null probe with members say nothing, if none of them fails. -/
theorem apply_comparedAll_of_null (null : v.isNull = true) (he : e.eval row = .ok v)
    {b : Bool} (h : comparedAll row negated e ms = .ok b) :
    (memberConnective negated).apply false b = false := by
  induction ms generalizing b with
  | nil =>
      cases h
      cases negated <;> rfl
  | cons m ms ih =>
      rw [comparedAll, compared, he] at h
      simp only [Outcome.ok_bind] at h
      rcases hm : m.eval row with err | w
      · rw [hm] at h
        cases h
      rw [hm, Outcome.ok_bind, comparisonHolds_null (.inl null)] at h
      rcases others : comparedAll row negated e ms with err | b'
      · rw [others] at h
        cases h
      · rw [others] at h
        have same : (memberConnective negated).apply false b' = b := Except.ok.inj h
        rw [← same, ih others]
        cases negated <;> rfl

/-- What a list says about a probe against the tree of comparisons. -/
theorem writtenOut_answer (row : Row) (e : Expr) (negated : Bool) (ms : List Expr) :
    WrittenOut negated (answer row e ms)
      ((memberConnective negated).both ((e.eval row).map fun v => negated && !v.isNull)
        (comparedAll row negated e ms)) := by
  unfold answer
  rcases he : e.eval row with err | v
  · exact .error (.inl rfl)
  change WrittenOut negated (if v.isNull then .ok .unsure else search row v ms)
    ((memberConnective negated).both (.ok (negated && !v.isNull)) _)
  by_cases null : v.isNull = true
  · have unsure : false = Membership.unsure.holds negated := by cases negated <;> rfl
    rw [if_pos null, null, Bool.not_true, Bool.and_false]
    rcases others : comparedAll row negated e ms with err | b
    · exact .unasked .unsure err
    · have none : (memberConnective negated).both (.ok false) (.ok b)
          = .ok (Membership.unsure.holds negated) :=
        congrArg Except.ok ((apply_comparedAll_of_null null he others).trans unsure)
      rw [none]
      exact .ok .unsure
  · rw [Bool.not_eq_true] at null
    rw [if_neg (by simp [null]), null, Bool.not_false, Bool.and_true,
      (both_memberConnective negated _).1]
    exact writtenOut_search null he negated ms

/-- A list whose members all say something says that the probe is found if some member
says so, and that it is absent if they all say so. -/
theorem search_of_said (h : ∀ m ∈ ms, ∃ x, said row v m = .ok x) :
    ∃ x, search row v ms = .ok x ∧
      (x = .found ↔ ∃ m ∈ ms, said row v m = .ok .found) ∧
      (x = .absent ↔ ∀ m ∈ ms, said row v m = .ok .absent) := by
  induction ms with
  | nil =>
      rw [search]
      exact ⟨.absent, rfl, by simp, by simp⟩
  | cons m ms ih =>
      rw [List.forall_mem_cons] at h
      obtain ⟨⟨x, first⟩, others⟩ := h
      obtain ⟨y, rest, found, absent⟩ := ih others
      refine ⟨x.join y, ?_, ?_, ?_⟩
      · rw [search_cons, first, rest, Outcome.ok_bind, x.andThen_ok]
      · simp only [Membership.join_eq_found_iff, found, List.mem_cons, or_and_right, exists_or,
          exists_eq_left, first, Except.ok.injEq]
      · rw [Membership.join_eq_absent_iff, absent, List.forall_mem_cons, first, Except.ok.injEq]

/-- Lists with the same members, all of which say something, say the same. -/
theorem search_congr {ms' : List Expr} (same : ∀ m, m ∈ ms' ↔ m ∈ ms)
    (h : ∀ m ∈ ms, ∃ x, said row v m = .ok x) : search row v ms' = search row v ms := by
  obtain ⟨x, left, found, absent⟩ := search_of_said h
  have h' : ∀ m ∈ ms', ∃ x, said row v m = .ok x := fun m member => h m ((same m).mp member)
  obtain ⟨x', left', found', absent'⟩ := search_of_said h'
  simp only [same, ← found] at found'
  simp only [same, ← absent] at absent'
  rw [left, left', Membership.eq_of_iff found' absent']

/-- Whether a member has a value, and one that compares with the probe's, if it has one. -/
def Answers (row : Row) (e m : Expr) : Prop :=
  ∃ w, m.eval row = .ok w ∧
    ∀ v, e.eval row = .ok v → ∃ b, comparisonHolds .equalTo v w = .ok b

theorem said_of_answers (notNull : v.isNull = false) (he : e.eval row = .ok v)
    (h : Answers row e m) : ∃ x, said row v m = .ok x := by
  obtain ⟨w, value, compares⟩ := h
  obtain ⟨b, outcome⟩ := compares v he
  have alike := related_said notNull he false m
  have asked : compared row false e m = .ok b := by
    unfold compared
    rw [he, value]
    exact outcome
  rw [asked] at alike
  cases hx : said row v m with
  | ok x => exact ⟨x, rfl⟩
  | error err =>
      rw [hx] at alike
      cases alike

theorem answer_congr {ms' : List Expr} (same : ∀ m, m ∈ ms' ↔ m ∈ ms)
    (h : ∀ m ∈ ms, Answers row e m) : answer row e ms' = answer row e ms := by
  unfold answer
  rcases he : e.eval row with err | v
  · rfl
  simp only [Outcome.ok_bind]
  by_cases null : v.isNull = true
  · rw [if_pos null, if_pos null]
  · rw [if_neg null, if_neg null]
    rw [Bool.not_eq_true] at null
    exact search_congr same fun m member => said_of_answers null he (h m member)

/-- **A membership and what it stands for.**  Where the tree of comparisons has a value,
the membership has the same one.  Where the membership fails, the tree fails alike, but
that a comparison may be named for being unequal.  Members that all have a value, and
one that compares with the probe, may come in any order and number. -/
theorem eval_membership_expansion (row : Row) (e : Expr) (ms : List Expr) (negated : Bool) :
    (∀ v, (expansion e ms negated).eval row = .ok v →
      (membership e ms negated).eval row = .ok v) ∧
    (∀ err, (membership e ms negated).eval row = .error err →
      ∃ err', (expansion e ms negated).eval row = .error err' ∧
        err.ExpandsTo negated err') ∧
    (∀ ms' : List Expr, (∀ m, m ∈ ms' ↔ m ∈ ms) → (∀ m ∈ ms, Answers row e m) →
      (membership e ms' negated).eval row = (membership e ms negated).eval row) := by
  have written := writtenOut_answer row e negated ms
  have tree : (expansion e ms negated).eval row = _ := eval_joined (eval_opening row e negated)
  rw [tree, eval_membership]
  refine ⟨fun v => written.value, fun err => written.failure, ?_⟩
  intro ms' same answers
  rw [eval_membership, answer_congr same answers]

end Expr

end ScanFilter
