import ScanFilter.Expr.Evaluation
import ScanFilter.Proofs.Comparison.Agreement
import ScanFilter.Proofs.Plan.RoundTrip
/-!
# A filter that travels means the same

The canonical form of a filter is evaluated step by step as the filter itself: at
every node the two values have one canonical form, or the two errors agree.  So the
worker of a scan, which has the canonical form from the plan bytes, passes the same
rows.

* `eval_canonical`, `matchesRow_canonical` — a filter and its canonical form on a row;
* `eval_decode_encode` — a filter and what its plan bytes decode to, on every row.
-/

namespace ScanFilter

variable {a a' b b' v w : TypedValue}

/-- Values with one canonical form are one truth value. -/
theorem asBoolean_of_canonical (h : v.canonical = w.canonical) :
    Corresponds Eq v.asBoolean w.asBoolean :=
  TypedValue.readAs_of_none .boolean h fun _ => rfl

/-- Operands with one canonical form are one truth value to a connective. -/
theorem booleanOperand_of_canonical (operator : NodeKind) (h : v.canonical = w.canonical) :
    Corresponds Eq (booleanOperand operator v) (booleanOperand operator w) := by
  unfold booleanOperand
  rw [← TypedValue.dataType_of_canonical h]
  by_cases ht : v.dataType = .boolean
  · rw [if_pos ht, if_pos ht]
    exact asBoolean_of_canonical h
  · rw [if_neg ht, if_neg ht]
    exact .error rfl

/-- A connective of operands with one canonical form has one outcome. -/
theorem logicalHolds_of_canonical (op : LogicalOperator) (hl : a.canonical = a'.canonical)
    (hr : b.canonical = b'.canonical) :
    Corresponds Eq (logicalHolds op a b) (logicalHolds op a' b') := by
  unfold logicalHolds
  rw [← TypedValue.isNull_of_canonical hl, ← TypedValue.isNull_of_canonical hr]
  by_cases hn : (a.isNull || b.isNull) = true
  · rw [if_pos hn, if_pos hn]
    exact .ok rfl
  · rw [if_neg hn, if_neg hn]
    apply (booleanOperand_of_canonical op.kind hl).bind
    intro x x' hx
    apply (booleanOperand_of_canonical op.kind hr).bind
    intro y y' hy
    rw [hx, hy]
    exact .ok rfl

/-- A condition on operands with one canonical form has one outcome. -/
theorem unaryHolds_of_canonical (op : UnaryOperator) (h : v.canonical = w.canonical) :
    Corresponds Eq (unaryHolds op v) (unaryHolds op w) := by
  have null := TypedValue.isNull_of_canonical h
  unfold unaryHolds
  rw [← null]
  cases op with
  | isNull => exact .ok rfl
  | isNotNull => exact .ok rfl
  | not =>
      by_cases hn : v.isNull = true
      · rw [hn]
        exact .ok rfl
      · dsimp only
        rw [if_neg hn, if_neg hn]
        apply (booleanOperand_of_canonical _ h).map
        intro x x' hx
        rw [hx]

/-- Whether two values have one canonical form. -/
abbrev TypedValue.Alike (v w : TypedValue) : Prop := v.canonical = w.canonical

/-- A truth value is like itself, under any computation with one outcome. -/
theorem corresponds_boolean {x y : Except FilterError Bool} (h : Corresponds Eq x y) :
    Corresponds TypedValue.Alike (x >>= fun b => pure (.boolean b))
      (y >>= fun b => pure (.boolean b)) := by
  apply h.bind
  intro b b' hb
  rw [hb]
  exact .ok rfl

namespace Expr

open TypedValue (Alike isNull_of_canonical)

/-- Members that are evaluated alike say the same about probes with one canonical
form. -/
theorem search_canonical {row : Row} {ms : List Expr} (h : v.Alike w)
    (hms : ∀ m ∈ ms, Corresponds Alike (m.canonical.eval row) (m.eval row)) :
    Corresponds Eq (search row v (ms.map canonical)) (search row w ms) := by
  induction ms with
  | nil =>
      rw [List.map_nil, search, search]
      exact .ok rfl
  | cons m ms ih =>
      have rest := ih (fun n hn => hms n (List.mem_cons_of_mem m hn))
      rw [List.map_cons, search, search]
      apply (hms m List.mem_cons_self).bind
      intro x y hxy
      rw [isNull_of_canonical hxy]
      by_cases hn : y.isNull = true
      · rw [if_pos hn, if_pos hn]
        apply rest.bind
        intro outcome outcome' ho
        rw [ho]
        exact .ok rfl
      · rw [if_neg hn, if_neg hn]
        apply (compareValues_of_canonical .equalTo h hxy).bind
        intro equal equal' he
        rw [he]
        -- The search stops at the same member on both sides.
        cases equal' with
        | true => exact .ok rfl
        | false => exact rest

/-- A filter and its canonical form have values with one canonical form on every
row, or fail with errors that agree. -/
theorem eval_canonical (row : Row) (e : Expr) :
    Corresponds Alike (e.canonical.eval row) (e.eval row) := by
  induction e using Expr.induction with
  | literal v =>
      rw [canonical, eval, eval]
      exact .ok v.canonical_canonical
  | column c =>
      rw [canonical, eval]
      exact Outcome.Related.refl FilterError.agrees_refl (fun v => Eq.refl v.canonical) _
  | comparison op a b iha ihb =>
      rw [canonical, eval, eval]
      apply iha.bind
      intro x x' hx
      apply ihb.bind
      intro y y' hy
      exact corresponds_boolean (comparisonHolds_of_canonical op hx hy)
  | logical op a b iha ihb =>
      rw [canonical, eval, eval]
      apply iha.bind
      intro x x' hx
      apply ihb.bind
      intro y y' hy
      exact corresponds_boolean (logicalHolds_of_canonical op hx hy)
  | unary op a iha =>
      rw [canonical, eval, eval]
      apply iha.bind
      intro x x' hx
      exact corresponds_boolean (unaryHolds_of_canonical op hx)
  | membership a ms negated iha ihms =>
      rw [canonical, canonicalMembers_eq, eval, eval]
      apply iha.bind
      intro x x' hx
      rw [isNull_of_canonical hx]
      by_cases hn : x'.isNull = true
      · rw [if_pos hn, if_pos hn]
        exact .ok rfl
      · rw [if_neg hn, if_neg hn]
        apply (search_canonical hx ihms).bind
        intro outcome outcome' ho
        rw [ho]
        exact .ok rfl

/-- A row passes a filter exactly when it passes the canonical form, and both fail
with errors that agree. -/
theorem matchesRow_canonical (row : Row) (e : Expr) :
    Corresponds Eq (e.canonical.matchesRow row) (e.matchesRow row) := by
  unfold matchesRow
  apply (eval_canonical row e).bind
  intro v w h
  unfold passes
  rw [isNull_of_canonical h, TypedValue.dataType_of_canonical h, describe_canonical]
  by_cases hn : w.isNull = true
  · rw [if_pos hn, if_pos hn]
    exact .ok rfl
  · rw [if_neg hn, if_neg hn]
    by_cases ht : w.dataType = .boolean
    · rw [if_pos ht, if_pos ht]
      exact asBoolean_of_canonical h
    · rw [if_neg ht, if_neg ht]
      exact .error ⟨rfl, rfl⟩

/-- **A shipped filter means the same.**  The plan bytes of a filter decode to one
that has the same value on every row, decimals as numbers and doubles as words, with
the same text, or fails with the same error; and it passes the same rows. -/
theorem eval_decode_encode {e : Expr} (h : e.Addressable) :
    ∃ e', Plan.decode (Plan.encode e) = .ok e' ∧ ∀ row,
      Corresponds (fun v w => v.Agrees w ∧ v.text = w.text) (e'.eval row) (e.eval row) ∧
      Corresponds Eq (e'.matchesRow row) (e.matchesRow row) := by
  refine ⟨e.canonical, Plan.decode_encode_canonical h, ?_⟩
  intro row
  refine ⟨?_, matchesRow_canonical row e⟩
  apply (eval_canonical row e).mono
  intro v w hvw
  exact ⟨TypedValue.agrees_of_canonical hvw, TypedValue.text_of_canonical hvw⟩

/-- The price filter means the same behind plan bytes. -/
theorem eval_decode_encode_priceFilter :
    Plan.priceFilter.Addressable ∧
      ∃ e', Plan.decode (Plan.encode Plan.priceFilter) = .ok e' ∧ ∀ row,
        Corresponds (fun v w => v.Agrees w ∧ v.text = w.text) (e'.eval row)
          (Plan.priceFilter.eval row) ∧
        Corresponds Eq (e'.matchesRow row) (Plan.priceFilter.matchesRow row) :=
  ⟨by decide, eval_decode_encode (by decide)⟩

end Expr

end ScanFilter
