import Mathlib.Data.List.Forall2
import ScanFilter.Expr.Evaluation
import ScanFilter.Proofs.Comparison.Readable
import ScanFilter.Proofs.Expr.Nodes
/-!
# Failure depends on the schema

Whether a filter without memberships fails on a row is told by the declared types of
the columns and by which of them are null.  The argument follows two rows of one
schema through the tree.  At every node the two values are **read alike**: they
declare one type and are null alike, and unless they are null they also fit their
type alike and are finite alike.  That much decides every reading a comparison or a
connective makes.  A literal is the same on both rows, so it may be malformed or
infinite; the columns are sound on both.

* `readable_iff` — values that are read alike can be read as the same pivots;
* `compareValues_failsAlike`, `booleanOperand_failsAlike` — so operators fail alike on
  them;
* `eval_sameSchema` — a filter on two sound rows of one schema.
-/

namespace ScanFilter

/-- Whether two errors are of one variant and differ at most in the fault that a
message tells. -/
def FilterError.SameFields : FilterError → FilterError → Prop
  | illegalMember t _, illegalMember t' _ => t = t'
  | e, e' => e = e'

/-- Both results are values in a relation, or both are errors with the same fields. -/
abbrev Parallel {α : Type} (R : α → α → Prop) :
    Except FilterError α → Except FilterError α → Prop :=
  Outcome.Related FilterError.SameFields R

/-- Both results are values, or both are errors with the same fields. -/
abbrev FailsAlike {α : Type} : Except FilterError α → Except FilterError α → Prop :=
  Parallel fun _ _ => True

namespace TypedValue

/-- Whether two values declare one type and are null alike. -/
def SameSchema (v w : TypedValue) : Prop := v.dataType = w.dataType ∧ v.isNull = w.isNull

/-- Whether a value is null, or else fits its declared type and is no infinite or NaN
double. -/
def Sound (v : TypedValue) : Prop :=
  v.isNull = false → v.wellFormed = true ∧ v.payload.isFinite = true

instance (v : TypedValue) : Decidable v.Sound :=
  inferInstanceAs (Decidable (v.isNull = false → _))

/-- Whether two values of one schema fit their type alike and are finite alike, unless
they are null. -/
structure ReadAlike (v w : TypedValue) : Prop where
  schema : v.SameSchema w
  wellFormed : v.isNull = false → v.wellFormed = w.wellFormed
  finite : v.isNull = false → v.payload.isFinite = w.payload.isFinite

variable {v w : TypedValue}

theorem readAlike_refl (v : TypedValue) : v.ReadAlike v :=
  ⟨⟨rfl, rfl⟩, fun _ => rfl, fun _ => rfl⟩

/-- Truth values are read alike, whichever they are. -/
theorem readAlike_boolean (b c : Bool) : (boolean b).ReadAlike (boolean c) :=
  ⟨⟨rfl, rfl⟩, fun _ => rfl, fun _ => rfl⟩

/-- Sound values of one schema are read alike. -/
theorem SameSchema.readAlike (h : v.SameSchema w) (hv : v.Sound) (hw : w.Sound) :
    v.ReadAlike w := by
  refine ⟨h, fun hn => ?_, fun hn => ?_⟩
  · rw [(hv hn).1, (hw (h.2 ▸ hn)).1]
  · rw [(hv hn).2, (hw (h.2 ▸ hn)).2]

theorem ReadAlike.symm (h : v.ReadAlike w) : w.ReadAlike v := by
  obtain ⟨⟨type, null⟩, wellFormed, finite⟩ := h
  exact ⟨⟨type.symm, null.symm⟩, fun hn => (wellFormed (null ▸ hn)).symm,
    fun hn => (finite (null ▸ hn)).symm⟩

theorem ReadAlike.readable (h : v.ReadAlike w) {pivot : DataType} (hv : v.Readable pivot) :
    w.Readable pivot where
  notNull := h.schema.2 ▸ hv.notNull
  wellFormed := h.wellFormed hv.notNull ▸ hv.wellFormed
  converts := h.schema.1 ▸ hv.converts
  finite hp := h.finite hv.notNull ▸ hv.finite hp

/-- Values that are read alike can be read as the same pivots. -/
theorem ReadAlike.readable_iff (h : v.ReadAlike w) (pivot : DataType) :
    v.Readable pivot ↔ w.Readable pivot :=
  ⟨h.readable, h.symm.readable⟩

theorem ReadAlike.legal (h : v.ReadAlike w) (hv : v.Legal) : w.Legal := by
  have notNull := hv.isNull
  refine legal_of_wellFormed (h.schema.2 ▸ notNull) ?_
  rw [← h.wellFormed notNull]
  exact hv.wellFormed

/-- A legal truth value is read as one. -/
theorem Legal.asBoolean (h : v.Legal) (ht : v.dataType = .boolean) :
    ∃ b, v.asBoolean = .ok b := by
  cases h with
  | boolean b => exact ⟨b, readAs_of_legal (.boolean b) rfl⟩
  | _ => cases ht

end TypedValue

open TypedValue (ReadAlike SameSchema Sound readAlike_refl readAlike_boolean)

variable {v w l l' r r' : TypedValue}

/-- Operands that can be read alike have outcomes that fail alike. -/
theorem OrderOutcome.failsAlike {pivot : DataType} {x y : Except FilterError (Option Ordering)}
    (hl : l.ReadAlike l') (hr : r.ReadAlike r') (hx : OrderOutcome pivot l r x)
    (hy : OrderOutcome pivot l' r' y) : FailsAlike x y := by
  have left := hl.readable_iff pivot
  have right := hr.readable_iff pivot
  cases hx with
  | ok hxl hxr order =>
      cases hy with
      | ok hyl hyr order' => exact .ok trivial
      | left hyl fault => exact absurd (left.mp hxl) hyl
      | right hyl hyr fault => exact absurd (right.mp hxr) hyr
  | left hxl fault =>
      cases hy with
      | ok hyl hyr order => exact absurd (left.mpr hyl) hxl
      | left hyl fault' => exact .error hl.schema.1
      | right hyl hyr fault' => exact absurd (left.mpr hyl) hxl
  | right hxl hxr fault =>
      cases hy with
      | ok hyl hyr order => exact absurd (right.mpr hyr) hxr
      | left hyl fault' => exact absurd (left.mp hxl) hyl
      | right hyl hyr fault' => exact .error hr.schema.1

/-- A comparison of operands that are read alike fails alike. -/
theorem compareValues_failsAlike (op : ComparisonOperator) (hl : l.ReadAlike l')
    (hr : r.ReadAlike r') : FailsAlike (compareValues op l r) (compareValues op l' r') := by
  -- Whether two operands have an order at all is told by their types.
  have outcome' := pivotOrder?_outcome l' r'
  rw [← hl.schema.1, ← hr.schema.1] at outcome'
  obtain ⟨unordered, none⟩ | ⟨ordered, x, some, hx⟩ := pivotOrder?_outcome l r
  · obtain ⟨_, none'⟩ | ⟨ordered', _⟩ := outcome'
    · rw [compareValues_unsupported none, compareValues_unsupported none', hl.schema.1,
        hr.schema.1]
      exact .error rfl
    · exact absurd unordered ordered'
  · obtain ⟨unordered', _⟩ | ⟨_, y, some', hy⟩ := outcome'
    · exact absurd unordered' ordered
    · rw [compareValues_of_order some, compareValues_of_order some']
      exact (OrderOutcome.failsAlike hl hr hx hy).map fun _ _ _ => trivial

theorem comparisonHolds_failsAlike (op : ComparisonOperator) (hl : l.ReadAlike l')
    (hr : r.ReadAlike r') :
    FailsAlike (comparisonHolds op l r) (comparisonHolds op l' r') := by
  unfold comparisonHolds
  rw [← hl.schema.2, ← hr.schema.2]
  by_cases hn : (l.isNull || r.isNull) = true
  · rw [if_pos hn, if_pos hn]
    exact .ok trivial
  · rw [if_neg hn, if_neg hn]
    exact compareValues_failsAlike op hl hr

/-- Operands of a connective that are read alike fail alike. -/
theorem booleanOperand_failsAlike (operator : NodeKind) (h : v.ReadAlike w) :
    FailsAlike (booleanOperand operator v) (booleanOperand operator w) := by
  have type := h.schema.1
  unfold booleanOperand
  rw [← type]
  by_cases ht : v.dataType = .boolean
  · rw [if_pos ht, if_pos ht]
    by_cases legal : v.Legal
    · obtain ⟨b, hb⟩ := legal.asBoolean ht
      obtain ⟨c, hc⟩ := (h.legal legal).asBoolean (type ▸ ht)
      rw [hb, hc]
      exact .ok trivial
    · have legal' : ¬ w.Legal := fun hw => legal (h.symm.legal hw)
      obtain ⟨fault, hv⟩ := TypedValue.readAs_of_not_legal legal .boolean Payload.asBoolean?
      obtain ⟨fault', hw⟩ := TypedValue.readAs_of_not_legal legal' .boolean Payload.asBoolean?
      unfold TypedValue.asBoolean
      rw [hv, hw]
      exact .error type
  · rw [if_neg ht, if_neg ht]
    exact .error rfl

theorem logicalHolds_failsAlike (op : LogicalOperator) (hl : l.ReadAlike l')
    (hr : r.ReadAlike r') : FailsAlike (logicalHolds op l r) (logicalHolds op l' r') := by
  unfold logicalHolds
  rw [← hl.schema.2, ← hr.schema.2]
  by_cases hn : (l.isNull || r.isNull) = true
  · rw [if_pos hn, if_pos hn]
    exact .ok trivial
  · rw [if_neg hn, if_neg hn]
    apply (booleanOperand_failsAlike op.kind hl).bind
    intro a a' _
    apply (booleanOperand_failsAlike op.kind hr).bind
    intro b b' _
    exact .ok trivial

theorem unaryHolds_failsAlike (op : UnaryOperator) (h : v.ReadAlike w) :
    FailsAlike (unaryHolds op v) (unaryHolds op w) := by
  unfold unaryHolds
  rw [← h.schema.2]
  cases op with
  | isNull => exact .ok trivial
  | isNotNull => exact .ok trivial
  | not =>
      by_cases hn : v.isNull = true
      · rw [hn]
        exact .ok trivial
      · dsimp only
        rw [if_neg hn, if_neg hn]
        exact (booleanOperand_failsAlike _ h).map fun _ _ _ => trivial

/-- Truth values of computations that fail alike are read alike. -/
theorem parallel_boolean {x y : Except FilterError Bool} (h : FailsAlike x y) :
    Parallel ReadAlike (x >>= fun b => pure (.boolean b))
      (y >>= fun b => pure (.boolean b)) := by
  apply h.bind
  intro b c _
  exact .ok (readAlike_boolean b c)

/-- Columns of rows whose values are read alike are read alike, or missing from
both. -/
theorem Column.value_parallel {row row' : Row} (h : List.Forall₂ ReadAlike row row')
    (c : Column) : Parallel ReadAlike (c.value row) (c.value row') := by
  have length := h.length_eq
  unfold Column.value Row.get?
  rcases Nat.lt_or_ge c.index.toNat row.length with inside | outside
  · have inside' : c.index.toNat < row'.length := length ▸ inside
    rw [List.getElem?_eq_getElem inside, List.getElem?_eq_getElem inside']
    exact .ok (h.get inside inside')
  · rw [List.getElem?_eq_none outside, List.getElem?_eq_none (length ▸ outside), length]
    exact .error rfl

namespace Expr

/-- On rows whose values are read alike, a tree without memberships has values that
are read alike, or fails with the same fields. -/
theorem eval_parallel {row row' : Row} (h : List.Forall₂ ReadAlike row row') {e : Expr}
    (he : e.MembershipFree) : Parallel ReadAlike (e.eval row) (e.eval row') := by
  induction e using Expr.induction with
  | literal v =>
      rw [eval, eval]
      exact .ok (readAlike_refl v)
  | column c =>
      rw [eval, eval]
      exact c.value_parallel h
  | comparison op a b iha ihb =>
      obtain ⟨ha, hb⟩ := he.comparison
      rw [eval, eval]
      apply (iha ha).bind
      intro x x' hx
      apply (ihb hb).bind
      intro y y' hy
      exact parallel_boolean (comparisonHolds_failsAlike op hx hy)
  | logical op a b iha ihb =>
      obtain ⟨ha, hb⟩ := he.logical
      rw [eval, eval]
      apply (iha ha).bind
      intro x x' hx
      apply (ihb hb).bind
      intro y y' hy
      exact parallel_boolean (logicalHolds_failsAlike op hx hy)
  | unary op a iha =>
      rw [eval, eval]
      apply (iha he.unary).bind
      intro x x' hx
      exact parallel_boolean (unaryHolds_failsAlike op hx)
  | membership a ms negated => cases he.root

/-- **Failure depends on the schema.**  On two sound rows of one schema a filter
without memberships has values of one schema, or it fails on both with errors of one
variant and with the same fields. -/
theorem eval_sameSchema {e : Expr} (he : e.MembershipFree) {row row' : Row}
    (h : List.Forall₂ SameSchema row row') (hrow : ∀ v ∈ row, v.Sound)
    (hrow' : ∀ w ∈ row', w.Sound) :
    Parallel SameSchema (e.eval row) (e.eval row') := by
  have alike : List.Forall₂ ReadAlike row row' := by
    refine List.forall₂_iff_get.mpr ⟨h.length_eq, ?_⟩
    intro i hi hi'
    exact (h.get hi hi').readAlike (hrow _ (List.get_mem row _)) (hrow' _ (List.get_mem row' _))
  exact (eval_parallel alike he).mono fun v w hvw => hvw.schema

/-- A filter over a double, an integer and a column that may be null, with a NaN and
with a literal that does not fit its type. -/
def schemaFilter : Expr :=
  .logical .or
    (.logical .and (.unary .isNull (.column ⟨2, none⟩))
      (.comparison .lessThan (.column ⟨0, none⟩) (.literal (.double ⟨0x7ff8000000000000⟩))))
    (.comparison .equalTo (.column ⟨1, some "seen"⟩) (.literal ⟨.int, .binary [0xff]⟩))

/-- Two rows of one schema that differ in every value but the null. -/
def positiveRow : Row := [.double ⟨0x3ff0000000000000⟩, .long 5, ⟨.date, .null⟩]

@[inherit_doc positiveRow]
def negativeRow : Row := [.double ⟨0xc000000000000000⟩, .long (-7), ⟨.date, .null⟩]

/-- The filter fails alike on both rows. -/
theorem eval_schemaFilter_sameSchema :
    schemaFilter.MembershipFree ∧ List.Forall₂ SameSchema positiveRow negativeRow ∧
    (∀ v ∈ positiveRow, v.Sound) ∧ (∀ w ∈ negativeRow, w.Sound) ∧
    Parallel SameSchema (schemaFilter.eval positiveRow) (schemaFilter.eval negativeRow) := by
  have schema : List.Forall₂ SameSchema positiveRow negativeRow :=
    .cons ⟨rfl, rfl⟩ (.cons ⟨rfl, rfl⟩ (.cons ⟨rfl, rfl⟩ .nil))
  exact ⟨by decide, schema, by decide, by decide,
    eval_sameSchema (by decide) schema (by decide) (by decide)⟩

end Expr

end ScanFilter
