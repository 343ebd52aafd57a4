import ScanFilter.Proofs.Outcome
import ScanFilter.Proofs.Storage.Steps
/-!
# Fields are compared as rows are filtered

A field is compared with a literal as soon as it was read, without a row to stand in
and without a filter.  The outcome is that of two filters nevertheless: one that compares
the first column of a row with the literal, on the row that holds the field alone, and
one that compares the field with the literal as two literals, on any row.  The reader
is left as reading the field leaves it, whether or not the two compare.

* `matchesRow_comparison` — a filter that compares two operands passes a row just if
  the comparison holds of their values;
* `compareTyped_asBoolean` — the outcome of a comparison is read back as it is;
* `compareField_as_filter` — a comparison of a field against both filters.
-/

namespace ScanFilter

/-- A filter that compares two operands has the outcome of the comparison. -/
theorem Expr.matchesRow_comparison {a b : Expr} {row : Row} {v w : TypedValue}
    (ha : a.eval row = .ok v) (hb : b.eval row = .ok w) (op : ComparisonOperator) :
    (Expr.comparison op a b).matchesRow row = comparisonHolds op v w := by
  have value : (Expr.comparison op a b).eval row = compareTyped op v w := by
    rw [Expr.eval, ha, hb, Outcome.ok_bind, Outcome.ok_bind, compareTyped]
    rcases comparisonHolds op v w with e | holds <;> rfl
  rcases outcome : comparisonHolds op v w with e | holds
  · unfold matchesRow
    rw [value, compareTyped, outcome]
    rfl
  · refine matchesRow_of_boolean ?_
    rw [value, compareTyped, outcome]
    rfl

/-- What a comparison gives is a truth value, so it is always read back. -/
theorem asBoolean_of_compareTyped {op : ComparisonOperator} {v w result : TypedValue}
    (h : compareTyped op v w = .ok result) : ∃ b, result.asBoolean = .ok b := by
  unfold compareTyped at h
  rcases outcome : comparisonHolds op v w with e | holds
  · rw [outcome] at h
    cases h
  · rw [outcome] at h
    cases h
    exact ⟨holds, TypedValue.asBoolean_boolean holds⟩

/-- Reading back what a comparison gives adds nothing to it. -/
theorem compareTyped_asBoolean (op : ComparisonOperator) (v w : TypedValue) :
    (compareTyped op v w).bind TypedValue.asBoolean = comparisonHolds op v w := by
  unfold compareTyped
  rcases comparisonHolds op v w with e | holds
  · rfl
  · exact TypedValue.asBoolean_boolean holds

namespace Reader

variable {σ : Type} [FileStore σ] {r : Reader σ} {path : String} {offset : Option Nat}
  {kind : FieldKind}

/-- A field that was read is compared as any other value. -/
theorem compareField_of_ok {v : TypedValue} (h : (r.readField path offset kind).1 = .ok v)
    (op : ComparisonOperator) (literal : TypedValue) :
    (r.compareField path offset kind op literal).1
      = (comparisonHolds op v literal).mapError .filter := by
  rw [compareField_eq, h, ← compareTyped_asBoolean]
  rfl

/-- A comparison fails at the storage just if the field cannot be read, and with the
error of that. -/
theorem compareField_eq_storage_iff (op : ComparisonOperator) (literal : TypedValue)
    (e : StorageError) :
    (r.compareField path offset kind op literal).1 = .error (.storage e) ↔
      (r.readField path offset kind).1 = .error e := by
  rcases field : (r.readField path offset kind).1 with e' | v
  · rw [compareField_eq, field]
    constructor
    · intro same
      cases same
      rfl
    · intro same
      cases same
      rfl
  · rw [compareField_of_ok field]
    rcases comparisonHolds op v literal with e' | holds
    · constructor <;> (intro same; cases same)
    · constructor <;> (intro same; cases same)

/-- **Fields are compared as rows are filtered.**  Whatever the state of a reader, a
comparison leaves it as reading the field does.  It fails at the storage just if the
field cannot be read, with the same error.  A field that was read has the outcome, truth
value or error, of a filter that compares the first column with the literal, on the row
of the field alone, and of one that compares the field as a literal, on any row.  The
truth value that the comparison gives is always read back. -/
theorem compareField_as_filter (r : Reader σ) (path : String) (offset : Option Nat)
    (kind : FieldKind) (op : ComparisonOperator) (literal : TypedValue) :
    let field := r.readField path offset kind
    let compared := r.compareField path offset kind op literal
    compared.2 = field.2 ∧
    (∀ e, compared.1 = .error (.storage e) ↔ field.1 = .error e) ∧
    (∀ v, field.1 = .ok v →
      (∀ label, compared.1 = ((Expr.comparison op (.column ⟨0, label⟩)
        (.literal literal)).matchesRow [v]).mapError .filter) ∧
      (∀ row, compared.1 = ((Expr.comparison op (.literal v)
        (.literal literal)).matchesRow row).mapError .filter)) ∧
    (∀ v result, compareTyped op v literal = .ok result →
      ∃ b, result.asBoolean = .ok b) := by
  intro field compared
  refine ⟨?_, compareField_eq_storage_iff op literal, ?_, ?_⟩
  · exact congrArg Prod.snd (compareField_eq r path offset kind op literal)
  · intro v read
    have outcome := compareField_of_ok read op literal
    constructor
    · intro label
      have column : (Expr.column ⟨0, label⟩).eval [v] = .ok v := rfl
      rw [Expr.matchesRow_comparison column rfl]
      exact outcome
    · intro row
      rw [Expr.matchesRow_comparison rfl rfl]
      exact outcome
  · intro v result given
    exact asBoolean_of_compareTyped given

end Reader

end ScanFilter
