import ScanFilter.Expr.Reuse
import ScanFilter.Proofs.Expr.Conditional
import ScanFilter.Proofs.Value.Legal
/-!
# Evaluation in place gives the same values

Writing over a value sets its declared type and its payload, so the outcome of a node does
not depend on what its first operand was, nor on whom that belonged to.  A leaf is
borrowed, and every other node is owned and has a truth value.  So whether a row passes is
told by the outcome of the root, and only a leaf can have a value that a row is not judged
by.

* `Operand.outcome_eq` — an outcome is a truth value, whatever it is written over;
* `holds_ofMarks`, `lookThrough_eq` — the two marks against what a list of members says;
* `evaluate_eq` — evaluation in place gives the value of the filter;
* `passes_eq_ok_iff`, `passes_eq_error` — what is asked of the value of a filter;
* `evaluate_definite` — conditionals and leaves, and whether a row passes them.
-/

namespace ScanFilter

namespace Operand

/-- An outcome is a truth value, whatever it is written over. -/
theorem outcome_eq (b : Bool) (o : Operand) : o.outcome b = .boolean b := by
  cases o with
  | borrowed v => rfl
  | owned v => exact v.set_boolean b

/-- The operand that a node is: leaves are borrowed and all others are owned. -/
def ofNode (e : Expr) (v : TypedValue) : Operand :=
  if e.isLeaf then borrowed v else owned v

theorem value_ofNode (e : Expr) (v : TypedValue) : (ofNode e v).value = v := by
  unfold ofNode
  cases e.isLeaf <;> rfl

end Operand

/-- Of what is declared a truth value, only a truth value is read as one. -/
theorem TypedValue.asBoolean_eq_ok_iff {v : TypedValue} {b : Bool}
    (type : v.dataType = .boolean) : v.asBoolean = .ok b ↔ v = .boolean b := by
  constructor
  · intro read
    obtain ⟨notNull, wellFormed, converts⟩ := readAs_eq_ok_iff.mp read
    cases legal_of_wellFormed notNull wellFormed with
    | boolean c =>
        cases converts
        rfl
    | _ => cases type
  · rintro rfl
    exact asBoolean_boolean b

namespace Membership

/-- What a list says after it was looked through. -/
def ofMarks : Bool × Bool → Membership
  | (true, _) => found
  | (false, true) => unsure
  | (false, false) => absent

/-- The two marks decide what the list says. -/
theorem holds_ofMarks (marks : Bool × Bool) (negated : Bool) :
    (ofMarks marks).holds negated = if negated then !marks.1 && !marks.2 else marks.1 := by
  obtain ⟨found, sawNull⟩ := marks
  cases found <;> cases sawNull <;> cases negated <;> rfl

/-- What a list says behind members of which one was a null, or none was. -/
def after (sawNull : Bool) (x : Membership) : Membership := if sawNull then x.afterNull else x

theorem after_afterNull (sawNull : Bool) (x : Membership) :
    x.afterNull.after sawNull = x.after true := by
  cases sawNull <;> cases x <;> rfl

end Membership

namespace Expr

variable {row : Row} {e : Expr} {v : TypedValue}

/-- Looking through members, with what was seen before, gives what they say. -/
theorem lookThrough_eq {ms : List Expr}
    (same : ∀ m ∈ ms, m.evaluate row = (m.eval row).map (Operand.ofNode m))
    (probe : TypedValue) (sawNull : Bool) :
    (lookThrough row probe ms sawNull).map Membership.ofMarks
      = (search row probe ms).map (Membership.after sawNull) := by
  induction ms generalizing sawNull with
  | nil => cases sawNull <;> rfl
  | cons m ms ih =>
      have rest := ih fun n hn => same n (List.mem_cons_of_mem m hn)
      rw [lookThrough, search, same m List.mem_cons_self]
      rcases m.eval row with err | member
      · rfl
      simp only [Except.map, Outcome.ok_bind, Operand.value_ofNode]
      by_cases null : member.isNull = true
      · rw [if_pos null, if_pos null]
        refine (rest true).trans ?_
        rcases search row probe ms with err | x
        · rfl
        · exact congrArg Except.ok (x.after_afterNull sawNull).symm
      · rw [if_neg null, if_neg null]
        rcases compareValues .equalTo probe member with err | equal
        · rfl
        cases equal with
        | false => exact rest sawNull
        | true => cases sawNull <;> rfl

theorem search_eq_lookThrough {ms : List Expr}
    (same : ∀ m ∈ ms, m.evaluate row = (m.eval row).map (Operand.ofNode m))
    (probe : TypedValue) :
    search row probe ms = (lookThrough row probe ms false).map Membership.ofMarks := by
  rw [lookThrough_eq same]
  rcases search row probe ms with err | x <;> rfl

/-- Evaluation in place gives the value of the filter, which belongs to the tree or the row
just if the filter is a leaf. -/
theorem evaluate_eq (row : Row) (e : Expr) :
    e.evaluate row = (e.eval row).map (Operand.ofNode e) := by
  induction e using Expr.induction with
  | literal v => rfl
  | column c =>
      rw [evaluate, eval]
      cases c.value row <;> rfl
  | comparison op a b ha hb =>
      rw [evaluate, eval, ha, hb]
      rcases a.eval row with err | v
      · rfl
      rcases b.eval row with err | w
      · rfl
      simp only [Except.map, Outcome.ok_bind, Operand.value_ofNode, Operand.outcome_eq]
      rcases comparisonHolds op v w with err | holds <;> rfl
  | logical op a b ha hb =>
      rw [evaluate, eval, ha, hb]
      rcases a.eval row with err | v
      · rfl
      rcases b.eval row with err | w
      · rfl
      simp only [Except.map, Outcome.ok_bind, Operand.value_ofNode, Operand.outcome_eq]
      rcases logicalHolds op v w with err | holds <;> rfl
  | unary op a ha =>
      rw [evaluate, eval, ha]
      rcases a.eval row with err | v
      · rfl
      simp only [Except.map, Outcome.ok_bind, Operand.value_ofNode, Operand.outcome_eq]
      rcases unaryHolds op v with err | holds <;> rfl
  | membership a ms negated ha hms =>
      rw [evaluate, eval, ha]
      rcases a.eval row with err | probe
      · rfl
      simp only [Except.map, Outcome.ok_bind, Operand.value_ofNode, Operand.outcome_eq]
      by_cases null : probe.isNull = true
      · rw [if_pos null, if_pos null]
        rfl
      · rw [if_neg null, if_neg null]
        rw [search_eq_lookThrough hms]
        rcases lookThrough row probe ms false with err | marks
        · rfl
        · simp only [Except.map, Outcome.ok_bind, Membership.holds_ofMarks]
          rfl

/-- Whether a row passes is asked of the operand that the filter is on it. -/
theorem matchesRow_eq_evaluate (row : Row) (e : Expr) :
    e.matchesRow row = e.evaluate row >>= fun o => e.passes o.value := by
  rw [evaluate_eq, matchesRow]
  rcases e.eval row with err | v
  · rfl
  · simp only [Except.map, Outcome.ok_bind, Operand.value_ofNode]

/-! ## Whether a row passes -/

/-- The value of a filter is judged: a null does not let a row pass, and a truth value
lets it pass if it is true. -/
theorem passes_eq_ok_iff {b : Bool} :
    e.passes v = .ok b ↔ (v.isNull = true ∧ b = false) ∨ v = .boolean b := by
  unfold passes
  by_cases null : v.isNull = true
  · rw [if_pos null]
    constructor
    · intro same
      exact .inl ⟨null, (Except.ok.inj same).symm⟩
    · rintro (⟨_, rfl⟩ | rfl)
      · rfl
      · cases null
  · rw [if_neg null]
    by_cases type : v.dataType = .boolean
    · rw [if_pos type, TypedValue.asBoolean_eq_ok_iff type]
      exact ⟨.inr, fun h => h.resolve_left fun lost => null lost.1⟩
    · rw [if_neg type]
      constructor
      · intro same
        cases same
      · rintro (⟨lost, _⟩ | rfl)
        · exact absurd lost null
        · exact absurd rfl type

/-- A value that is not judged is refused, by its declared type. -/
theorem passes_eq_error (h : ∀ b, e.passes v ≠ .ok b) :
    ∃ fault, e.passes v = .error (.illegalMember v.dataType fault) := by
  rcases judged : e.passes v with err | b
  · unfold passes at judged
    split at judged
    · cases judged
    · split at judged
      · obtain ⟨fault, rfl⟩ := TypedValue.readAs_error judged
        exact ⟨fault, rfl⟩
      · cases judged
        exact ⟨_, rfl⟩
  · exact absurd judged (h b)

/-- Whether a tree is a leaf that has some value on a row: a literal, or a column that the
row has. -/
inductive LeafOf (row : Row) : Expr → TypedValue → Prop
  | literal (v : TypedValue) : LeafOf row (.literal v) v
  | column {c : Column} {v : TypedValue} (has : row.get? c.index.toNat = some v) :
      LeafOf row (.column c) v

theorem LeafOf.evaluate (h : LeafOf row e v) : e.evaluate row = .ok (.borrowed v) := by
  cases h with
  | literal => rfl
  | @column c v has =>
      rw [Expr.evaluate, Column.value, has]
      rfl

theorem LeafOf.matchesRow (h : LeafOf row e v) : e.matchesRow row = e.passes v := by
  rw [matchesRow_eq_evaluate, h.evaluate]
  rfl

/-- A column that the row does not have is a failure. -/
theorem evaluate_column_of_none {c : Column} (h : row.get? c.index.toNat = none) :
    (column c).evaluate row = .error (.columnOutOfBounds c.index.toNat row.length) := by
  rw [evaluate, Column.value, h]
  rfl

/-- A conditional is an owned truth value, or a failure. -/
theorem evaluate_of_not_leaf (h : e.isLeaf = false) (row : Row) :
    (∃ b, e.evaluate row = .ok (.owned ⟨.boolean, .boolean b⟩)) ∨
    ∃ err, e.evaluate row = .error err := by
  obtain ⟨truth, value⟩ := eval_of_not_leaf h row
  rw [evaluate_eq, value]
  cases truth with
  | error err => exact .inr ⟨err, rfl⟩
  | ok b =>
      refine .inl ⟨b, ?_⟩
      simp only [Except.map, Operand.ofNode, h]
      rfl

/-- **Conditionals have a truth value, and a row is judged by it.**  A conditional fails,
and whether the row passes fails with the same error; or it is an owned truth value,
nothing being left of what this was written over, and the row passes if it is true.  A
leaf that has a value is this value, borrowed.  The row does not pass just if the value is
null or false, and it passes just if it is true; on any other value whether it passes
fails, by the declared type of the value.  A column that the row does not have fails, and
so does whether the row passes. -/
theorem evaluate_definite (row : Row) (e : Expr) :
    (e.isLeaf = false →
      (∃ b, e.evaluate row = .ok (.owned ⟨.boolean, .boolean b⟩) ∧ e.matchesRow row = .ok b) ∨
      ∃ err, e.evaluate row = .error err ∧ e.matchesRow row = .error err) ∧
    (∀ v, LeafOf row e v →
      e.evaluate row = .ok (.borrowed v) ∧
      (e.matchesRow row = .ok false ↔ v.isNull = true ∨ v = ⟨.boolean, .boolean false⟩) ∧
      (e.matchesRow row = .ok true ↔ v = ⟨.boolean, .boolean true⟩) ∧
      (v.isNull = false → (∀ b, v ≠ ⟨.boolean, .boolean b⟩) →
        ∃ fault, e.matchesRow row = .error (.illegalMember v.dataType fault))) ∧
    (∀ c, e = .column c → row.get? c.index.toNat = none →
      e.evaluate row = .error (.columnOutOfBounds c.index.toNat row.length) ∧
      e.matchesRow row = .error (.columnOutOfBounds c.index.toNat row.length)) ∧
    e.eval row = (e.evaluate row).map Operand.value := by
  refine ⟨?_, ?_, ?_, ?_⟩
  · intro conditional
    rw [matchesRow_eq_evaluate]
    rcases evaluate_of_not_leaf conditional row with ⟨b, truth⟩ | ⟨err, failed⟩
    · rw [truth]
      exact .inl ⟨b, rfl, (passes_eq_ok_iff (e := e)).mpr (.inr rfl)⟩
    · rw [failed]
      exact .inr ⟨err, rfl, rfl⟩
  · intro v leaf
    rw [leaf.matchesRow]
    refine ⟨leaf.evaluate, ?_, ?_, ?_⟩
    · rw [passes_eq_ok_iff]
      simp only [and_true]
      rfl
    · rw [passes_eq_ok_iff]
      simp only [Bool.true_eq_false, and_false, false_or]
      rfl
    · intro notNull other
      refine passes_eq_error fun b judged => ?_
      rcases passes_eq_ok_iff.mp judged with ⟨null, _⟩ | truth
      · rw [notNull] at null
        cases null
      · exact other b truth
  · rintro c rfl missing
    have failed := evaluate_column_of_none missing
    rw [matchesRow_eq_evaluate, failed]
    exact ⟨rfl, rfl⟩
  · rw [evaluate_eq]
    rcases e.eval row with err | v
    · rfl
    · exact congrArg Except.ok (Operand.value_ofNode e v).symm

/-- A filter that compares what it decided with a text. -/
def isDecided : Expr :=
  .unary .not (.comparison .equalTo (.unary .isNull (.column ⟨0, none⟩))
    (.literal (.string "false")))

/-- A row with a text that is declared a truth value. -/
def misdeclaredRow : Row := [.int 20, ⟨.boolean, .string "true"⟩]

/-- The filter does not pass the row; the text is refused as a truth value, and the column
behind it is not there. -/
theorem evaluate_definite_misdeclaredRow :
    isDecided.matchesRow misdeclaredRow = .ok false ∧
    (∃ fault, (column ⟨1, none⟩).matchesRow misdeclaredRow
      = .error (.illegalMember .boolean fault)) ∧
    (column ⟨2, none⟩).matchesRow misdeclaredRow = .error (.columnOutOfBounds 2 2) := by
  refine ⟨?_, ?_, ?_⟩
  · have decided : isDecided.evaluate misdeclaredRow
        = .ok (.owned ⟨.boolean, .boolean false⟩) := rfl
    rcases (evaluate_definite misdeclaredRow isDecided).1 rfl with ⟨b, truth, passes⟩ | failed
    · rw [decided] at truth
      cases truth
      exact passes
    · obtain ⟨err, failed, _⟩ := failed
      rw [decided] at failed
      cases failed
  · exact ((evaluate_definite misdeclaredRow (column ⟨1, none⟩)).2.1 _ (.column rfl)).2.2.2 rfl
      (by intro b same; cases same)
  · exact ((evaluate_definite misdeclaredRow (column ⟨2, none⟩)).2.2.1 _ rfl rfl).2

end Expr

end ScanFilter
