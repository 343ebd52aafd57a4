import Mathlib.Data.List.Forall2
import ScanFilter.Proofs.Expr.Canonical
import ScanFilter.Proofs.Text.Numeral
/-!
# Descriptions can be read in one way only

A description is the name of a node, and between parentheses the descriptions of its
operands with commas between them.  As long as no literal and no column name has a
parenthesis or a comma of its own, these marks tell where every part ends: a name ends at
the first parenthesis, a leaf at the next one, and an operand where its own parentheses
are closed.  So a description, whatever follows it, tells the shape of the tree.  It does
not tell more: literals of several types are shown by one text, and a column may have the
number of another one for its name.

* `SameShape` — the same operators, flags and numbers of members, over leaves that are
  shown by the same texts;
* `sameRoot_of_kind` — nodes that do the same are built in the same way;
* `describe_append_inj` — descriptions with something behind them that are one text;
* `describe_eq_iff_sameShape` — trees with one description.
-/

namespace ScanFilter

/-- No two kinds of nodes have one name. -/
theorem NodeKind.name_injective {k k' : NodeKind} (h : k.name = k'.name) : k = k' := by
  cases k <;> cases k' <;> first | rfl | exact absurd h (by decide)

namespace Expr

/-- Whether two trees have the same operators at every node, the same flags and as many
members of their lists, and at their leaves literals, or columns, of one text. -/
inductive SameShape : Expr → Expr → Prop
  | literal {v w : TypedValue} (text : v.text = w.text) : SameShape (literal v) (literal w)
  | column {c d : Column} (text : c.text = d.text) : SameShape (column c) (column d)
  | comparison (op : ComparisonOperator) {a a' b b' : Expr} (left : SameShape a a')
      (right : SameShape b b') : SameShape (comparison op a b) (comparison op a' b')
  | logical (op : LogicalOperator) {a a' b b' : Expr} (left : SameShape a a')
      (right : SameShape b b') : SameShape (logical op a b) (logical op a' b')
  | unary (op : UnaryOperator) {a a' : Expr} (operand : SameShape a a') :
      SameShape (unary op a) (unary op a')
  | membership (negated : Bool) {a a' : Expr} {ms ms' : List Expr} (probe : SameShape a a')
      (members : List.Forall₂ SameShape ms ms') :
      SameShape (membership a ms negated) (membership a' ms' negated)

/-- The characters that set the parts of a description apart. -/
def marks : List Char := ['(', ')', ',']

/-- Whether a text has no mark. -/
def Unmarked (cs : List Char) : Prop := ∀ c ∈ cs, c ∉ marks

instance (cs : List Char) : Decidable (Unmarked cs) :=
  decidable_of_iff (cs.all (fun c => !marks.elem c) = true)
    (by simp [Unmarked, List.all_eq_true])

/-- Whether a node shows no mark of its own: neither the text of a literal nor the name of
a column has one. -/
def UnmarkedLeaf : Expr → Prop
  | literal v => Unmarked v.text.toList
  | column c => ∀ name, c.label = some name → Unmarked name.toList
  | _ => True

instance : DecidablePred UnmarkedLeaf
  | literal v => inferInstanceAs (Decidable (Unmarked v.text.toList))
  | column ⟨_, none⟩ => .isTrue (by rintro _ ⟨⟩)
  | column ⟨_, some name⟩ =>
    decidable_of_iff (Unmarked name.toList)
      ⟨by rintro h _ ⟨⟩; exact h, fun h => h name rfl⟩
  | comparison .. | logical .. | unary .. | membership .. => .isTrue trivial

/-- Whether no literal and no column name of a tree is shown with a mark. -/
def MarkFree (e : Expr) : Prop := e.Everywhere UnmarkedLeaf

instance (e : Expr) : Decidable e.MarkFree :=
  decidable_of_iff (e.nodes.all (fun n => decide (UnmarkedLeaf n)) = true)
    (by simp [MarkFree, Everywhere, List.all_eq_true])

/-! ## Names -/

/-- Names have no marks. -/
theorem unmarked_name (k : NodeKind) : Unmarked k.name.toList := by
  cases k <;> decide +kernel

/-- A mark behind an unmarked text tells where the text ends. -/
theorem Unmarked.append_inj {cs ds : List Char} (hc : Unmarked cs) (hd : Unmarked ds)
    {mark mark' : Char} (hm : mark ∈ marks) (hm' : mark' ∈ marks) {rest rest' : List Char}
    (same : cs ++ mark :: rest = ds ++ mark' :: rest') :
    cs = ds ∧ mark = mark' ∧ rest = rest' := by
  induction cs generalizing ds with
  | nil =>
      cases ds with
      | nil => exact ⟨rfl, List.cons.inj same⟩
      | cons d ds =>
          cases (List.cons.inj same).1
          exact absurd hm (hd _ List.mem_cons_self)
  | cons c cs ih =>
      cases ds with
      | nil =>
          cases (List.cons.inj same).1
          exact absurd hm' (hc _ List.mem_cons_self)
      | cons d ds =>
          obtain ⟨rfl, tail⟩ := List.cons.inj same
          obtain ⟨rfl, rest⟩ := ih (fun c h => hc c (List.mem_cons_of_mem _ h))
            (fun c h => hd c (List.mem_cons_of_mem _ h)) tail
          exact ⟨rfl, rest⟩

/-- The number of a column is shown without marks, and so is its name, if it has none. -/
theorem unmarked_column {c : Column} (h : ∀ name, c.label = some name → Unmarked name.toList) :
    Unmarked c.text.toList := by
  unfold Column.text
  cases label : c.label with
  | some name => exact h name label
  | none =>
      have number : (integerText c.index.toNat).toList = Numeral.digits c.index.toNat := by
        rw [integerText, String.toList_ofList, Numeral.integer, if_neg (by omega)]
        rfl
      intro d hd
      rw [Option.getD_none, String.toList_append, number] at hd
      rcases List.mem_append.mp hd with sign | digit
      · rw [List.mem_singleton.mp sign]
        decide
      · have noDigit : ∀ mark ∈ marks, mark.isDigit = false := by simp [marks]
        intro mark
        exact (Numeral.allDigits_digits _).ne digit (noDigit d mark) rfl

/-! ## Kinds -/

/-- Whether two nodes are built in the same way, by the same operator. -/
inductive SameRoot : Expr → Expr → Prop
  | literal (v w : TypedValue) : SameRoot (literal v) (literal w)
  | column (c d : Column) : SameRoot (column c) (column d)
  | comparison (op : ComparisonOperator) (a a' b b' : Expr) :
      SameRoot (comparison op a b) (comparison op a' b')
  | logical (op : LogicalOperator) (a a' b b' : Expr) :
      SameRoot (logical op a b) (logical op a' b')
  | unary (op : UnaryOperator) (a a' : Expr) : SameRoot (unary op a) (unary op a')
  | membership (negated : Bool) (a a' : Expr) (ms ms' : List Expr) :
      SameRoot (membership a ms negated) (membership a' ms' negated)

/-- Nodes that do the same are built in the same way. -/
theorem sameRoot_of_kind {e e' : Expr} (h : e.kind = e'.kind) : SameRoot e e' := by
  rcases e with _ | _ | ⟨_ | _⟩ | ⟨_ | _⟩ | ⟨_ | _⟩ | ⟨_, _, _ | _⟩ <;>
    rcases e' with _ | _ | ⟨_ | _⟩ | ⟨_ | _⟩ | ⟨_ | _⟩ | ⟨_, _, _ | _⟩ <;>
    cases h <;> constructor

/-! ## The parts of a description -/

/-- Descriptions with a comma in front of each, and the parenthesis that closes them. -/
def closing : List Expr → List Char
  | [] => [')']
  | e :: es => ',' :: (e.describe.toList ++ closing es)

/-- Descriptions with commas between them, and the parenthesis that closes them. -/
def listed : List Expr → List Char
  | [] => [')']
  | e :: es => e.describe.toList ++ closing es

/-- The description of a node behind its name and the parenthesis that opens it. -/
def inner : Expr → List Char
  | literal v => v.text.toList ++ [')']
  | column c => c.text.toList ++ [')']
  | comparison _ a b | logical _ a b => listed [a, b]
  | unary _ a => listed [a]
  | membership a ms _ =>
    a.describe.toList ++ ',' :: ("List".toList ++ '(' :: (listed ms ++ [')']))

theorem intercalate_describe (es : List Expr) :
    [','].intercalate (es.map (·.describe.toList)) ++ [')'] = listed es := by
  cases es with
  | nil => rfl
  | cons e es =>
      rw [listed]
      induction es generalizing e with
      | nil => simp [closing]
      | cons e' es ih => simp [closing, ← ih]

theorem toList_applied (name : String) (operands : List String) :
    (applied name operands).toList = name.toList ++
      '(' :: ([','].intercalate (operands.map String.toList) ++ [')']) := by
  simp [applied]

theorem toList_applied_describe (name : String) (es : List Expr) :
    (applied name (es.map describe)).toList = name.toList ++ '(' :: listed es := by
  rw [toList_applied, List.map_map]
  exact congrArg (name.toList ++ '(' :: ·) (intercalate_describe es)

/-- A description is the name of the node and what the name is applied to. -/
theorem toList_describe (e : Expr) :
    e.describe.toList = e.kind.name.toList ++ '(' :: e.inner := by
  cases e with
  | literal v => simp [describe, toList_applied, kind, NodeKind.name, inner]
  | column c => simp [describe, toList_applied, kind, NodeKind.name, inner]
  | comparison op a b => exact toList_applied_describe op.name [a, b]
  | logical op a b => exact toList_applied_describe op.name [a, b]
  | unary op a => exact toList_applied_describe op.name [a]
  | membership a ms negated =>
      have name : (if negated then NodeKind.notIn.name else NodeKind.isIn.name)
          = (membership a ms negated).kind.name := by
        cases negated <;> rfl
      have parts : [','].intercalate [a.describe.toList, (applied "List" (ms.map describe)).toList]
          = a.describe.toList ++ ',' :: ("List".toList ++ '(' :: listed ms) := by
        rw [toList_applied_describe]
        simp
      rw [describe, name, toList_applied, describeMembers_eq, inner]
      simp only [List.map_cons, List.map_nil, parts, List.append_assoc, List.cons_append]

/-! ## Reading a description -/

/-- Whether descriptions of two trees, with something behind them, are one text only if
the trees are of one shape and the same is behind them. -/
def Apart (e e' : Expr) : Prop :=
  ∀ rest rest', e.describe.toList ++ rest = e'.describe.toList ++ rest' →
    SameShape e e' ∧ rest = rest'

section Reading

variable {e e' : Expr} {es es' : List Expr} {rest rest' : List Char}

/-- What begins with the description of a node tells how the node is built. -/
theorem root_of_describe (same : e.describe.toList ++ rest = e'.describe.toList ++ rest') :
    SameRoot e e' ∧ e.inner ++ rest = e'.inner ++ rest' := by
  rw [toList_describe, toList_describe, List.append_assoc, List.append_assoc] at same
  obtain ⟨names, _, inner⟩ := (unmarked_name e.kind).append_inj (unmarked_name e'.kind)
    (by decide) (by decide) same
  exact ⟨sameRoot_of_kind (NodeKind.name_injective (String.toList_inj.mp names)), inner⟩

/-- A leaf ends at the parenthesis behind its text. -/
theorem leaf_append_inj {text text' : String} (h : Unmarked text.toList)
    (h' : Unmarked text'.toList)
    (same : text.toList ++ [')'] ++ rest = text'.toList ++ [')'] ++ rest') :
    text = text' ∧ rest = rest' := by
  rw [List.append_assoc, List.append_assoc] at same
  obtain ⟨texts, _, behind⟩ := h.append_inj h' (by decide) (by decide) same
  exact ⟨String.toList_inj.mp texts, behind⟩

/-- A list of descriptions that can be told apart ends at the parenthesis behind it. -/
theorem closing_append_inj (apart : ∀ e ∈ es, ∀ e', e'.MarkFree → Apart e e')
    (free : ∀ e' ∈ es', e'.MarkFree) (same : closing es ++ rest = closing es' ++ rest') :
    List.Forall₂ SameShape es es' ∧ rest = rest' := by
  induction es generalizing es' with
  | nil =>
      cases es' with
      | nil => exact ⟨.nil, (List.cons.inj same).2⟩
      | cons e' es' => cases (List.cons.inj same).1
  | cons e es ih =>
      cases es' with
      | nil => cases (List.cons.inj same).1
      | cons e' es' =>
          rw [closing, closing, List.cons_append, List.cons_append, List.append_assoc,
            List.append_assoc] at same
          obtain ⟨first, tail⟩ := apart e List.mem_cons_self e' (free e' List.mem_cons_self) _ _
            (List.cons.inj same).2
          obtain ⟨others, behind⟩ := ih (fun e he => apart e (List.mem_cons_of_mem _ he))
            (fun e' he' => free e' (List.mem_cons_of_mem _ he')) tail
          exact ⟨.cons first others, behind⟩

/-- A description does not begin with a parenthesis. -/
theorem describe_ne_closing (e : Expr) (rest rest' : List Char) :
    e.describe.toList ++ rest ≠ ')' :: rest' := by
  intro same
  have none : Unmarked [] := fun _ h => absurd h List.not_mem_nil
  rw [toList_describe, List.append_assoc] at same
  obtain ⟨_, mark, _⟩ := (unmarked_name e.kind).append_inj none (by decide) (by decide) same
  exact absurd mark (by decide)

theorem listed_append_inj (apart : ∀ e ∈ es, ∀ e', e'.MarkFree → Apart e e')
    (free : ∀ e' ∈ es', e'.MarkFree) (same : listed es ++ rest = listed es' ++ rest') :
    List.Forall₂ SameShape es es' ∧ rest = rest' := by
  cases es with
  | nil =>
      cases es' with
      | nil => exact ⟨.nil, (List.cons.inj same).2⟩
      | cons e' es' =>
          rw [listed, listed, List.append_assoc] at same
          exact (describe_ne_closing _ _ _ same.symm).elim
  | cons e es =>
      cases es' with
      | nil =>
          rw [listed, listed, List.append_assoc] at same
          exact (describe_ne_closing _ _ _ same).elim
      | cons e' es' =>
          -- The first description has no comma in front; with one the lists close alike.
          exact closing_append_inj apart free (congrArg (',' :: ·) same)

/-- Two operands are told apart as a list of two. -/
theorem pair_append_inj {a b a' b' : Expr} (left : ∀ e', e'.MarkFree → Apart a e')
    (right : ∀ e', e'.MarkFree → Apart b e') (hl : a'.MarkFree) (hr : b'.MarkFree)
    (same : listed [a, b] ++ rest = listed [a', b'] ++ rest') :
    SameShape a a' ∧ SameShape b b' ∧ rest = rest' := by
  obtain ⟨shapes, behind⟩ := listed_append_inj
    (List.forall_mem_cons.mpr ⟨left, List.forall_mem_singleton.mpr right⟩)
    (List.forall_mem_cons.mpr ⟨hl, List.forall_mem_singleton.mpr hr⟩) same
  obtain ⟨first, others⟩ := List.forall₂_cons.mp shapes
  exact ⟨first, (List.forall₂_cons.mp others).1, behind⟩

/-- **Descriptions begin one text only as one.**  A text that begins with the descriptions
of two trees whose leaves show no marks tells one shape of both, and what is behind them
is the same. -/
theorem describe_append_inj (h : e.MarkFree) (h' : e'.MarkFree) : Apart e e' := by
  -- By induction on the first tree: the name tells how both are built, and the operands
  -- are told apart by the hypotheses, one after the other.
  induction e using Expr.induction generalizing e' with
  | literal v =>
      intro rest rest' same
      obtain ⟨root, same⟩ := root_of_describe same
      cases root with
      | literal _ w =>
          obtain ⟨text, behind⟩ := leaf_append_inj h.root h'.root same
          exact ⟨.literal text, behind⟩
  | column c =>
      intro rest rest' same
      obtain ⟨root, same⟩ := root_of_describe same
      cases root with
      | column _ d =>
          obtain ⟨text, behind⟩ :=
            leaf_append_inj (unmarked_column h.root) (unmarked_column h'.root) same
          exact ⟨.column text, behind⟩
  | comparison op a b iha ihb =>
      intro rest rest' same
      obtain ⟨root, same⟩ := root_of_describe same
      cases root with
      | comparison _ _ a' _ b' =>
          obtain ⟨freeA, freeB⟩ := h.comparison
          obtain ⟨freeA', freeB'⟩ := h'.comparison
          obtain ⟨left, right, behind⟩ := pair_append_inj (fun _ => iha freeA)
            (fun _ => ihb freeB) freeA' freeB' same
          exact ⟨.comparison op left right, behind⟩
  | logical op a b iha ihb =>
      intro rest rest' same
      obtain ⟨root, same⟩ := root_of_describe same
      cases root with
      | logical _ _ a' _ b' =>
          obtain ⟨freeA, freeB⟩ := h.logical
          obtain ⟨freeA', freeB'⟩ := h'.logical
          obtain ⟨left, right, behind⟩ := pair_append_inj (fun _ => iha freeA)
            (fun _ => ihb freeB) freeA' freeB' same
          exact ⟨.logical op left right, behind⟩
  | unary op a iha =>
      intro rest rest' same
      obtain ⟨root, same⟩ := root_of_describe same
      cases root with
      | unary _ _ a' =>
          rw [inner, inner, listed, listed, List.append_assoc, List.append_assoc] at same
          obtain ⟨operand, closed⟩ := iha h.unary h'.unary _ _ same
          exact ⟨.unary op operand, (List.cons.inj closed).2⟩
  | membership a ms negated iha ihms =>
      intro rest rest' same
      obtain ⟨root, same⟩ := root_of_describe same
      cases root with
      | membership _ _ a' _ ms' =>
          obtain ⟨freeProbe, freeMembers⟩ := h.membership
          obtain ⟨freeProbe', freeMembers'⟩ := h'.membership
          rw [inner, inner, List.append_assoc, List.append_assoc] at same
          obtain ⟨probe, list⟩ := iha freeProbe freeProbe' _ _ same
          have members : listed ms ++ (')' :: rest) = listed ms' ++ (')' :: rest') := by
            simpa using list
          obtain ⟨shapes, closed⟩ := listed_append_inj
            (fun m hm m' => ihms m hm (freeMembers m hm)) freeMembers' members
          exact ⟨.membership negated probe shapes, (List.cons.inj closed).2⟩

end Reading

/-- Lists of trees that are described alike, one by one, have the same descriptions. -/
theorem map_describe_eq {es es' : List Expr} (shapes : List.Forall₂ SameShape es es')
    (each : ∀ e ∈ es, ∀ e', SameShape e e' → e.describe = e'.describe) :
    es.map describe = es'.map describe := by
  induction shapes with
  | nil => rfl
  | cons first _ ih =>
      have others := ih fun e he => each e (List.mem_cons_of_mem _ he)
      rw [List.map_cons, List.map_cons, each _ List.mem_cons_self _ first, others]

/-- Trees of one shape have one description. -/
theorem SameShape.describe_eq {e e' : Expr} (h : SameShape e e') :
    e.describe = e'.describe := by
  induction e using Expr.induction generalizing e' with
  | literal v =>
      cases h with
      | literal text => rw [describe, describe, text]
  | column c =>
      cases h with
      | column text => rw [describe, describe, text]
  | comparison op a b iha ihb =>
      cases h with
      | comparison _ left right => rw [describe, describe, iha left, ihb right]
  | logical op a b iha ihb =>
      cases h with
      | logical _ left right => rw [describe, describe, iha left, ihb right]
  | unary op a iha =>
      cases h with
      | unary _ operand => rw [describe, describe, iha operand]
  | membership a ms negated iha ihms =>
      cases h with
      | membership _ probe members =>
          have texts := map_describe_eq members fun m hm m' => ihms m hm
          rw [describe, describe, iha probe, describeMembers_eq, describeMembers_eq, texts]

/-- **Descriptions can be read in one way only.**  Two trees that show no parenthesis and
no comma in a literal or in the name of a column have one description just if they are of
one shape. -/
theorem describe_eq_iff_sameShape {e e' : Expr} (h : e.MarkFree) (h' : e'.MarkFree) :
    e.describe = e'.describe ↔ SameShape e e' := by
  constructor
  · intro same
    have texts : e.describe.toList ++ [] = e'.describe.toList ++ [] := by rw [same]
    exact (describe_append_inj h h' [] [] texts).1
  · exact SameShape.describe_eq

/-- A column without a name, and members of several types. -/
def typedMembers : Expr :=
  membership (column ⟨2, none⟩) [literal (.int 7), unary .isNull (literal (.boolean true))] true

/-- A column whose name is the number of another one, and members that are texts. -/
def textMembers : Expr :=
  membership (column ⟨5, some "#2"⟩)
    [literal (.string "7"), unary .isNull (literal (.string "true"))] true

/-- Both are described in the same words, so they are of one shape. -/
theorem sameShape_typedMembers :
    typedMembers.MarkFree ∧ textMembers.MarkFree ∧
      typedMembers.describe = textMembers.describe ∧ SameShape typedMembers textMembers := by
  have free : typedMembers.MarkFree := by decide +kernel
  have free' : textMembers.MarkFree := by decide +kernel
  have same : typedMembers.describe = textMembers.describe := by decide +kernel
  exact ⟨free, free', same, (describe_eq_iff_sameShape free free').mp same⟩

/-- A text with marks of its own is not told from the members that it looks like. -/
example : (membership (column ⟨0, none⟩) [literal (.string "a),Literal(b")] false).describe
    = (membership (column ⟨0, none⟩) [literal (.string "a"), literal (.string "b")]
        false).describe := by
  decide +kernel

end Expr

end ScanFilter
