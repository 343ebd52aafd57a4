import Mathlib.Data.List.Forall2
import ScanFilter.Expr.Evaluation
import ScanFilter.Proofs.Expr.Nodes
import ScanFilter.Proofs.Outcome
/-!
# A lost value never makes a row pass

Where nothing is negated but inside a comparison or a membership, a null counts as
false: when some values of a row are replaced by nulls, the filter may stop passing the
row, but it never starts to.  Unequal and not-in are among the comparisons and
memberships, so the argument looks at each of them.  A node of the poorer row has a
value that is null, or the value on the full row, or it is false where the full row has
some truth value.  A list of members says of the poorer row that it is unsure, or what
it says of the full one.

* `Positive` — the filters that the argument is about;
* `search_nulled` — memberships, with nulls among the members;
* `matchesRow_nulled` — a filter on a row that lost values.
-/

namespace ScanFilter

open Outcome (WhereBoth whereBoth_of_forall)

/-- Whether one truth value is false or another one is true. -/
abbrev Entails (p q : Bool) : Prop := p = true → q = true

/-- Whether a value is another one, or a null in its place. -/
def TypedValue.OrNull (w v : TypedValue) : Prop := w = v ∨ w.isNull = true

instance (w v : TypedValue) : Decidable (w.OrNull v) :=
  inferInstanceAs (Decidable (_ ∨ _))

/-- Whether a value is another one, or a null in its place, or false in the place of a
truth value. -/
inductive TypedValue.Below : TypedValue → TypedValue → Prop
  | same (v : TypedValue) : Below v v
  | null {w v : TypedValue} (h : w.isNull = true) : Below w v
  | truth {p q : Bool} (h : Entails p q) : Below (boolean p) (boolean q)

variable {w v l l' r r' : TypedValue}

theorem TypedValue.OrNull.below (h : w.OrNull v) : w.Below v := by
  rcases h with rfl | null
  · exact .same w
  · exact .null null

/-- A value that was not lost is the same. -/
theorem TypedValue.OrNull.eq (h : w.OrNull v) (notNull : ¬ w.isNull = true) : w = v :=
  h.resolve_right notNull

/-- What is above a value that is not null is not null either. -/
theorem TypedValue.Below.notNull (h : w.Below v) (notNull : ¬ w.isNull = true) :
    ¬ v.isNull = true := by
  cases h with
  | same => exact notNull
  | null null => exact absurd null notNull
  | truth _ => exact Bool.false_ne_true

/-- False entails everything. -/
theorem whereBoth_false (y : Except FilterError Bool) :
    WhereBoth Entails (.ok false : Except FilterError Bool) y :=
  whereBoth_of_forall (fun _ holds => absurd holds Bool.false_ne_true) y

/-- An answer entails itself. -/
theorem whereBoth_refl (x : Except FilterError Bool) : WhereBoth Entails x x := by
  cases x with
  | error e => exact .left e _
  | ok p => exact .ok id

/-- A comparison that lost an operand is false, and otherwise unchanged. -/
theorem comparisonHolds_nulled (op : ComparisonOperator) (hl : l.OrNull l')
    (hr : r.OrNull r') :
    WhereBoth Entails (comparisonHolds op l r) (comparisonHolds op l' r') := by
  by_cases lost : l.isNull = true ∨ r.isNull = true
  · rw [comparisonHolds_null lost]
    exact whereBoth_false _
  · obtain ⟨left, right⟩ := not_or.mp lost
    rw [hl.eq left, hr.eq right]
    exact whereBoth_refl _

/-- An operand of a connective that is not null entails the one above it. -/
theorem booleanOperand_below (operator : NodeKind) (h : w.Below v)
    (notNull : ¬ w.isNull = true) :
    WhereBoth Entails (booleanOperand operator w) (booleanOperand operator v) := by
  cases h with
  | same => exact whereBoth_refl _
  | null null => exact absurd null notNull
  | @truth p q entails =>
      have left : booleanOperand operator (.boolean p) = .ok p := TypedValue.asBoolean_boolean p
      have right : booleanOperand operator (.boolean q) = .ok q := TypedValue.asBoolean_boolean q
      rw [left, right]
      exact .ok entails

/-- Connectives are monotone. -/
theorem entails_apply (op : LogicalOperator) {p p' q q' : Bool} (hp : Entails p p')
    (hq : Entails q q') : Entails (op.apply p q) (op.apply p' q') := by
  intro holds
  cases op with
  | and =>
      obtain ⟨left, right⟩ := Bool.and_eq_true_iff.mp holds
      exact Bool.and_eq_true_iff.mpr ⟨hp left, hq right⟩
  | or =>
      rcases Bool.or_eq_true_iff.mp holds with left | right
      · exact Bool.or_eq_true_iff.mpr (.inl (hp left))
      · exact Bool.or_eq_true_iff.mpr (.inr (hq right))

theorem logicalHolds_below (op : LogicalOperator) (hl : l.Below l') (hr : r.Below r') :
    WhereBoth Entails (logicalHolds op l r) (logicalHolds op l' r') := by
  unfold logicalHolds
  by_cases lost : (l.isNull || r.isNull) = true
  · rw [if_pos lost]
    exact whereBoth_false _
  · rw [if_neg lost]
    obtain ⟨left, right⟩ := not_or.mp (mt Bool.or_eq_true_iff.mpr lost)
    -- Neither operand was lost, so neither is null on the full row.
    have kept : ¬ (l'.isNull || r'.isNull) = true :=
      mt Bool.or_eq_true_iff.mp (not_or.mpr ⟨hl.notNull left, hr.notNull right⟩)
    rw [if_neg kept]
    apply (booleanOperand_below op.kind hl left).bind
    intro p p' hp
    apply (booleanOperand_below op.kind hr right).bind
    intro q q' hq
    exact .ok (entails_apply op hp hq)

theorem isNotNull_nulled (h : w.OrNull v) :
    WhereBoth Entails (unaryHolds .isNotNull w) (unaryHolds .isNotNull v) := by
  by_cases lost : w.isNull = true
  · unfold unaryHolds
    rw [lost]
    exact whereBoth_false _
  · rw [h.eq lost]
    exact whereBoth_refl _

/-- Truth values of which one entails the other. -/
theorem below_boolean {x y : Except FilterError Bool} (h : WhereBoth Entails x y) :
    WhereBoth TypedValue.Below (x >>= fun b => pure (.boolean b))
      (y >>= fun b => pure (.boolean b)) := by
  apply h.bind
  intro p q entails
  exact .ok (.truth entails)

namespace Membership

/-- Whether one answer of a list is another one, or unsure. -/
def OrUnsure (x y : Membership) : Prop := x = y ∨ x = unsure

variable {x y : Membership}

theorem OrUnsure.afterNull (h : x.OrUnsure y) : x.afterNull.OrUnsure y.afterNull := by
  rcases h with rfl | rfl
  · exact .inl rfl
  · exact .inr rfl

/-- A null member in front of the answer on one side only. -/
theorem OrUnsure.afterNull_left (h : x.OrUnsure y) : x.afterNull.OrUnsure y := by
  rcases h with rfl | rfl
  · cases x with
    | found => exact .inl rfl
    | absent => exact .inr rfl
    | unsure => exact .inl rfl
  · exact .inr rfl

/-- After a null member, a list that is not unsure has found its probe. -/
theorem orUnsure_found (x : Membership) : x.afterNull.OrUnsure found := by
  cases x with
  | found => exact .inl rfl
  | absent => exact .inr rfl
  | unsure => exact .inr rfl

/-- An answer that is not unsure decides both kinds of membership. -/
theorem OrUnsure.holds (h : x.OrUnsure y) (negated : Bool) :
    Entails (x.holds negated) (y.holds negated) := by
  rcases h with rfl | rfl
  · exact id
  · intro holds
    cases negated <;> cases holds

end Membership

namespace Expr

/-- Filters that are put together by `and` and `or` from leaves, comparisons of leaves,
memberships of a leaf among leaves, and tests that a leaf is not null. -/
inductive Positive : Expr → Prop
  | leaf {a : Expr} (ha : a.isLeaf = true) : Positive a
  | comparison {op : ComparisonOperator} {a b : Expr} (ha : a.isLeaf = true)
      (hb : b.isLeaf = true) : Positive (comparison op a b)
  | membership {a : Expr} {ms : List Expr} {negated : Bool} (ha : a.isLeaf = true)
      (hms : ∀ m ∈ ms, m.isLeaf = true) : Positive (membership a ms negated)
  | isNotNull {a : Expr} (ha : a.isLeaf = true) : Positive (unary .isNotNull a)
  | logical {op : LogicalOperator} {a b : Expr} (ha : Positive a) (hb : Positive b) :
      Positive (logical op a b)

variable {nulled row : Row}

/-- A column of the poorer row is that of the full row, or null. -/
theorem column_nulled (h : List.Forall₂ TypedValue.OrNull nulled row) (c : Column) :
    WhereBoth TypedValue.OrNull (c.value nulled) (c.value row) := by
  have length := h.length_eq
  unfold Column.value Row.get?
  rcases Nat.lt_or_ge c.index.toNat row.length with inside | outside
  · have inside' : c.index.toNat < nulled.length := length ▸ inside
    rw [List.getElem?_eq_getElem inside, List.getElem?_eq_getElem inside']
    exact .ok (h.get inside' inside)
  · rw [List.getElem?_eq_none outside]
    exact .right _ _

/-- A leaf on the poorer row has the value on the full row, or null. -/
theorem leaf_nulled (h : List.Forall₂ TypedValue.OrNull nulled row) {a : Expr}
    (ha : a.isLeaf = true) : WhereBoth TypedValue.OrNull (a.eval nulled) (a.eval row) := by
  cases a with
  | literal v =>
      rw [eval, eval]
      exact .ok (.inl rfl)
  | column c =>
      rw [eval, eval]
      exact column_nulled h c
  | _ => cases ha

/-- What a list says of the poorer row after a null member, next to what it says of the
full row when the member is not null there. -/
theorem afterNull_below {x y : Except FilterError Membership} (probe v : TypedValue)
    (h : WhereBoth Membership.OrUnsure x y) :
    WhereBoth Membership.OrUnsure (x >>= fun said => pure said.afterNull)
      (do if ← compareValues .equalTo probe v then pure .found else y) := by
  cases compareValues .equalTo probe v with
  | error e => exact .right _ e
  | ok equal =>
      cases equal with
      | true =>
          cases x with
          | error e => exact .left e _
          | ok s => exact .ok s.orUnsure_found
      | false =>
          cases h with
          | ok hxy => exact .ok hxy.afterNull_left
          | left e y => exact .left e y
          | right x e => exact .right _ e

/-- A list of leaves is unsure of the poorer row, or says what it says of the full
one. -/
theorem search_nulled (h : List.Forall₂ TypedValue.OrNull nulled row) (probe : TypedValue)
    {ms : List Expr} (hms : ∀ m ∈ ms, m.isLeaf = true) :
    WhereBoth Membership.OrUnsure (search nulled probe ms) (search row probe ms) := by
  induction ms with
  | nil =>
      rw [search, search]
      exact .ok (.inl rfl)
  | cons m ms ih =>
      have rest := ih (fun n hn => hms n (List.mem_cons_of_mem m hn))
      rw [search, search]
      apply (leaf_nulled h (hms m List.mem_cons_self)).bind
      intro w v member
      by_cases lost : w.isNull = true
      · rw [if_pos lost]
        by_cases missing : v.isNull = true
        · rw [if_pos missing]
          apply rest.bind
          intro x y hxy
          exact .ok hxy.afterNull
        · rw [if_neg missing]
          exact afterNull_below probe v rest
      · -- The member is the same on both rows, and so is what becomes of it.
        rw [← member.eq lost, if_neg lost, if_neg lost]
        cases compareValues .equalTo probe w with
        | error e => exact .left e _
        | ok equal =>
            cases equal with
            | true => exact .ok (.inl rfl)
            | false => exact rest

/-- On the poorer row a filter has the value that it has on the full row, or null, or
false. -/
theorem eval_nulled (h : List.Forall₂ TypedValue.OrNull nulled row) {e : Expr}
    (he : e.Positive) : WhereBoth TypedValue.Below (e.eval nulled) (e.eval row) := by
  induction he with
  | leaf ha => exact (leaf_nulled h ha).mono fun w v hwv => hwv.below
  | comparison ha hb =>
      rw [eval, eval]
      apply (leaf_nulled h ha).bind
      intro l l' hl
      apply (leaf_nulled h hb).bind
      intro r r' hr
      exact below_boolean (comparisonHolds_nulled _ hl hr)
  | @membership a ms negated ha hms =>
      rw [eval, eval]
      apply (leaf_nulled h ha).bind
      intro w v probe
      by_cases lost : w.isNull = true
      · rw [if_pos lost]
        by_cases missing : v.isNull = true
        · rw [if_pos missing]
          exact .ok (.same _)
        · rw [if_neg missing]
          cases search row v ms with
          | error e => exact .right _ e
          | ok s => exact .ok (.truth fun holds => absurd holds Bool.false_ne_true)
      · rw [← probe.eq lost, if_neg lost, if_neg lost]
        apply (search_nulled h w hms).bind
        intro x y hxy
        exact .ok (.truth (hxy.holds negated))
  | isNotNull ha =>
      rw [eval, eval]
      apply (leaf_nulled h ha).bind
      intro w v hwv
      exact below_boolean (isNotNull_nulled hwv)
  | logical _ _ iha ihb =>
      rw [eval, eval]
      apply iha.bind
      intro l l' hl
      apply ihb.bind
      intro r r' hr
      exact below_boolean (logicalHolds_below _ hl hr)

/-- A value lets a row pass only where the one above it does. -/
theorem passes_below (e : Expr) (h : w.Below v) :
    WhereBoth Entails (e.passes w) (e.passes v) := by
  cases h with
  | same => exact whereBoth_refl _
  | null null =>
      unfold passes
      rw [if_pos null]
      exact whereBoth_false _
  | @truth p q entails =>
      have left : e.passes (.boolean p) = .ok p := TypedValue.asBoolean_boolean p
      have right : e.passes (.boolean q) = .ok q := TypedValue.asBoolean_boolean q
      rw [left, right]
      exact .ok entails

/-- **A lost value never makes a row pass.**  If a filter of this kind passes a row in
which some values were replaced by nulls, it passes the full row, or fails on it. -/
theorem matchesRow_nulled {e : Expr} (he : e.Positive)
    (h : List.Forall₂ TypedValue.OrNull nulled row) (passed : e.matchesRow nulled = .ok true) :
    e.matchesRow row = .ok true ∨ ∃ err, e.matchesRow row = .error err := by
  have both : WhereBoth Entails (e.matchesRow nulled) (e.matchesRow row) := by
    apply (eval_nulled h he).bind
    intro w v hwv
    exact passes_below e hwv
  rw [passed] at both
  generalize e.matchesRow row = result at both ⊢
  cases both with
  | ok entails => exact .inl (congrArg Except.ok (entails rfl))
  | right _ err => exact .inr ⟨err, rfl⟩

/-- A price other than 5, or a name that is not among a literal and a column. -/
def nulledFilter : Expr :=
  .logical .or
    (.comparison .notEquals (.column ⟨0, some "price"⟩) (.literal (.int 5)))
    (.membership (.column ⟨1, none⟩) [.literal (.string "recalled"), .column ⟨2, none⟩] true)

/-- On a row that lost the last column the filter passes by its price alone, and it
passes the full row. -/
theorem matchesRow_nulledFilter :
    nulledFilter.Positive ∧
    List.Forall₂ TypedValue.OrNull [.long 4, .string "new", ⟨.string, .null⟩]
      [.long 4, .string "new", .string "old"] ∧
    nulledFilter.matchesRow [.long 4, .string "new", ⟨.string, .null⟩] = .ok true ∧
    (nulledFilter.matchesRow [.long 4, .string "new", .string "old"] = .ok true ∨
      ∃ err, nulledFilter.matchesRow [.long 4, .string "new", .string "old"] = .error err) := by
  have positive : nulledFilter.Positive :=
    .logical (.comparison rfl rfl) (.membership rfl (by decide))
  have lost : List.Forall₂ TypedValue.OrNull [.long 4, .string "new", ⟨.string, .null⟩]
      [.long 4, .string "new", .string "old"] :=
    .cons (.inl rfl) (.cons (.inl rfl) (.cons (.inr rfl) .nil))
  have passed :
      nulledFilter.matchesRow [.long 4, .string "new", ⟨.string, .null⟩] = .ok true := by
    decide +kernel
  exact ⟨positive, lost, passed, matchesRow_nulled positive lost passed⟩

end Expr

end ScanFilter
