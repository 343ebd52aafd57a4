import ScanFilter.Proofs.Expr.Reuse
/-!
# Columns and literals are interchangeable

A column is no more than a name for the value that the row has there.  So a tree can be
put in the place of a column wherever it has the value of the column, and the tree as a
whole keeps its outcome, the value or the failure.  In particular a filter can take its
values along: with a literal for every column it has, on any row at all, the outcome that
it had on the row it took the values from.  Nothing else of a row can matter, and no label
of a column either.

* `columns` — the columns of a tree;
* `substitute` — the tree with a tree for every column;
* `eval_substitute` — substitution keeps the outcome, where it does so for the columns;
* `eval_inlined` — a filter that took its values along, and what it depends on.
-/

namespace ScanFilter.Expr

/-- The column that a leaf names, if it names one. -/
def column? : Expr → Option Column
  | column c => some c
  | _ => none

/-- The columns that occur in a tree. -/
def columns (e : Expr) : List Column := e.nodes.filterMap column?

/-- Whether a row has every column of a tree. -/
def InBounds (row : Row) (e : Expr) : Prop := ∀ c ∈ e.columns, c.index.toNat < row.length

instance (row : Row) (e : Expr) : Decidable (e.InBounds row) :=
  inferInstanceAs (Decidable (∀ c ∈ e.columns, c.index.toNat < row.length))

mutual

/-- The tree with a tree for every column. -/
def substitute (f : Column → Expr) : Expr → Expr
  | literal v => literal v
  | column c => f c
  | comparison op a b => comparison op (substitute f a) (substitute f b)
  | logical op a b => logical op (substitute f a) (substitute f b)
  | unary op a => unary op (substitute f a)
  | membership a ms negated =>
    membership (substitute f a) (substituteMembers f ms) negated

/-- A list of trees with a tree for every column. -/
def substituteMembers (f : Column → Expr) : List Expr → List Expr
  | [] => []
  | a :: as => substitute f a :: substituteMembers f as

end

/-- The tree with a literal for every column, which holds the value of the row there. -/
def inlined (row : Row) : Expr → Expr :=
  substitute fun c => literal ((row.get? c.index.toNat).getD .null)

/-- The tree with other labels on its columns. -/
def relabelled (label : Column → Option String) : Expr → Expr :=
  substitute fun c => column ⟨c.index, label c⟩

variable {row other : Row} {e : Expr} {f : Column → Expr}

theorem substituteMembers_eq (f : Column → Expr) (ms : List Expr) :
    substituteMembers f ms = ms.map (substitute f) := by
  induction ms with
  | nil => rfl
  | cons m ms ih => rw [substituteMembers, ih, List.map_cons]

/-- Members that have the same outcomes, tree by tree, say the same of a probe. -/
theorem search_map {ms : List Expr} {g : Expr → Expr}
    (same : ∀ m ∈ ms, (g m).eval other = m.eval row) (probe : TypedValue) :
    search other probe (ms.map g) = search row probe ms := by
  induction ms with
  | nil => rfl
  | cons m ms ih =>
      rw [List.map_cons, search, search, same m List.mem_cons_self,
        ih fun n hn => same n (List.mem_cons_of_mem m hn)]

/-- A condition on the columns of a tree is one on its nodes. -/
theorem forall_columns {p : Column → Prop} :
    (∀ c ∈ e.columns, p c) ↔ e.Everywhere fun n => ∀ c, n.column? = some c → p c := by
  constructor
  · intro h n hn c same
    exact h c (List.mem_filterMap.mpr ⟨n, hn, same⟩)
  · intro h c hc
    obtain ⟨n, hn, same⟩ := List.mem_filterMap.mp hc
    exact h n hn c same

/-- Where each column has the outcome of the tree in its place, on another row, so has the
whole tree. -/
theorem eval_substitute (h : ∀ c ∈ e.columns, (f c).eval other = c.value row) :
    (e.substitute f).eval other = e.eval row := by
  rw [forall_columns] at h
  induction e using Expr.induction with
  | literal v => rfl
  | column c => exact h.root c rfl
  | comparison op a b ha hb =>
      obtain ⟨left, right⟩ := h.comparison
      rw [substitute, eval, eval, ha left, hb right]
  | logical op a b ha hb =>
      obtain ⟨left, right⟩ := h.logical
      rw [substitute, eval, eval, ha left, hb right]
  | unary op a ha => rw [substitute, eval, eval, ha h.unary]
  | membership a ms negated ha hms =>
      obtain ⟨probe, members⟩ := h.membership
      have same : ∀ m ∈ ms, (m.substitute f).eval other = m.eval row :=
        fun m hm => hms m hm (members m hm)
      rw [substitute, eval, eval, ha probe, substituteMembers_eq]
      simp only [search_map same]

/-- A leaf in the place of every column makes no leaf of another node, and of a leaf
nothing else. -/
theorem isLeaf_substitute (leaf : ∀ c, (f c).isLeaf = true) (e : Expr) :
    (e.substitute f).isLeaf = e.isLeaf := by
  cases e with
  | column c => exact leaf c
  | _ => rfl

/-- With leaves in the places of columns, what is borrowed stays borrowed. -/
theorem evaluate_substitute (h : ∀ c ∈ e.columns, (f c).eval other = c.value row)
    (leaf : ∀ c, (f c).isLeaf = true) :
    (e.substitute f).evaluate other = e.evaluate row := by
  have same : Operand.ofNode (e.substitute f) = Operand.ofNode e := by
    funext v
    rw [Operand.ofNode, Operand.ofNode, isLeaf_substitute leaf]
  rw [evaluate_eq, evaluate_eq, eval_substitute h, same]

/-- A tree with each column in its own place is the tree. -/
theorem substitute_column (e : Expr) : e.substitute column = e := by
  induction e using Expr.induction with
  | literal v => rfl
  | column c => rfl
  | comparison op a b ha hb => rw [substitute, ha, hb]
  | logical op a b ha hb => rw [substitute, ha, hb]
  | unary op a ha => rw [substitute, ha]
  | membership a ms negated ha hms =>
      rw [substitute, ha, substituteMembers_eq, List.map_congr_left hms, List.map_id']

/-- A row has a value for every column that is in its bounds. -/
theorem value_of_inBounds {c : Column} (h : c.index.toNat < row.length) :
    c.value row = .ok ((row.get? c.index.toNat).getD .null) := by
  rw [Column.value, Row.get?, List.getElem?_eq_getElem h]
  rfl

/-- Rows that agree in a column, and of which one has it, have one value for it. -/
theorem value_of_agree {c : Column} (h : c.index.toNat < row.length)
    (agree : other.get? c.index.toNat = row.get? c.index.toNat) :
    c.value other = c.value row := by
  rw [value_of_inBounds h, Column.value, agree, Row.get?, List.getElem?_eq_getElem h]
  rfl

/-- **Columns and literals are interchangeable.**  Take a filter and a row that has all of
its columns, whatever values these are.  With literals of these values for the columns the
filter has on any other row, also an empty one, the outcome that it has on this row, the
same value or the same failure; evaluated in place it is the same operand, as much
borrowed.  It also has this outcome itself on every row that agrees in its columns,
however long this is and whatever else it holds.  And with other labels on its columns it
has the same outcome on every row, whether or not this has the columns. -/
theorem eval_inlined (e : Expr) :
    (∀ row, e.InBounds row → ∀ other,
      (e.inlined row).eval other = e.eval row ∧
      (e.inlined row).evaluate other = e.evaluate row) ∧
    (∀ row other : Row, e.InBounds row →
      (∀ c ∈ e.columns, other.get? c.index.toNat = row.get? c.index.toNat) →
      e.eval other = e.eval row ∧ e.evaluate other = e.evaluate row) ∧
    (∀ row label,
      (e.relabelled label).eval row = e.eval row ∧
      (e.relabelled label).evaluate row = e.evaluate row) := by
  refine ⟨?_, ?_, ?_⟩
  · intro row inside other
    have values : ∀ c ∈ e.columns,
        (literal ((row.get? c.index.toNat).getD .null)).eval other = c.value row :=
      fun c hc => (value_of_inBounds (inside c hc)).symm
    exact ⟨eval_substitute values, evaluate_substitute values fun _ => rfl⟩
  · intro row other inside agree
    have values : ∀ c ∈ e.columns, (column c).eval other = c.value row :=
      fun c hc => value_of_agree (inside c hc) (agree c hc)
    have same := eval_substitute values
    have same' := evaluate_substitute values fun _ => rfl
    rw [substitute_column] at same same'
    exact ⟨same, same'⟩
  · intro row label
    have values : ∀ c ∈ e.columns, (column ⟨c.index, label c⟩).eval row = c.value row :=
      fun _ _ => rfl
    exact ⟨eval_substitute values, evaluate_substitute values fun _ => rfl⟩

/-- A filter on the first and the last one of three columns. -/
def isYoungOrUnknown : Expr :=
  .logical .or (.unary .isNull (.column ⟨2, none⟩))
    (.comparison .lessThan (.column ⟨0, some "age"⟩) (.literal (.int 18)))

/-- A row with a text that is declared an integer, and with a null. -/
def misreadRow : Row := [⟨.int, .string "young"⟩, .long 3, ⟨.string, .null⟩]

/-- With the values of the row, a misdeclared one and a null, the filter has on an empty
row the outcome that it has on the row; and it has this outcome on a longer row with
another value in the second column. -/
theorem eval_inlined_misreadRow :
    (isYoungOrUnknown.inlined misreadRow).eval [] = isYoungOrUnknown.eval misreadRow ∧
    isYoungOrUnknown.eval [⟨.int, .string "young"⟩, .null, ⟨.string, .null⟩, .boolean true]
      = isYoungOrUnknown.eval misreadRow := by
  have inside : isYoungOrUnknown.InBounds misreadRow := by decide
  have agree : ∀ c ∈ isYoungOrUnknown.columns,
      Row.get? [⟨.int, .string "young"⟩, .null, ⟨.string, .null⟩, .boolean true] c.index.toNat
        = misreadRow.get? c.index.toNat := by decide
  obtain ⟨inlined, agreeing, _⟩ := eval_inlined isYoungOrUnknown
  exact ⟨(inlined _ inside []).1, (agreeing _ _ inside agree).1⟩

end ScanFilter.Expr
