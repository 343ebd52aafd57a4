import ScanFilter.Expr
/-!
# The nodes of a tree

Facts about all trees are proved by induction on the tree, a membership node
having one hypothesis for its probe and one for each member.  A condition on the
literals, columns or lists that occur in a tree is a condition on its nodes.

* `induction` — induction over trees;
* `nodes` — every subtree, operands before the node that they belong to;
* `Everywhere` — a condition on every node, which is one on the root and on every
  node of the operands and members;
* `isLeaf` — literals and columns;
* `MembershipFree` — trees without memberships.
-/

namespace ScanFilter.Expr

/-- Induction over trees: what holds of the leaves, and of every node whose
operands and members it holds of, holds of every tree. -/
theorem induction {motive : Expr → Prop}
    (literal : ∀ v, motive (.literal v))
    (column : ∀ c, motive (.column c))
    (comparison : ∀ op a b, motive a → motive b → motive (.comparison op a b))
    (logical : ∀ op a b, motive a → motive b → motive (.logical op a b))
    (unary : ∀ op a, motive a → motive (.unary op a))
    (membership : ∀ a ms negated, motive a → (∀ m ∈ ms, motive m) →
      motive (.membership a ms negated)) :
    ∀ e, motive e := by
  intro e
  refine @Expr.rec motive (fun ms => ∀ m ∈ ms, motive m)
    literal column comparison logical unary membership ?_ ?_ e
  · intro m hm
    cases hm
  · intro a as ha has m hm
    rcases List.mem_cons.mp hm with rfl | hm
    · exact ha
    · exact has m hm

mutual

/-- Every subtree of a tree, operands before the node that they belong to, from
left to right. -/
def nodes : Expr → List Expr
  | literal v => [literal v]
  | column c => [column c]
  | comparison op a b => nodes a ++ nodes b ++ [comparison op a b]
  | logical op a b => nodes a ++ nodes b ++ [logical op a b]
  | unary op a => nodes a ++ [unary op a]
  | membership a ms negated => nodes a ++ nodesOfMembers ms ++ [membership a ms negated]

/-- The nodes of every tree of a list. -/
def nodesOfMembers : List Expr → List Expr
  | [] => []
  | a :: as => nodes a ++ nodesOfMembers as

end

theorem nodesOfMembers_eq (ms : List Expr) : nodesOfMembers ms = ms.flatMap nodes := by
  induction ms with
  | nil => rfl
  | cons m ms ih => rw [nodesOfMembers, ih, List.flatMap_cons]

/-- A tree is among its own nodes. -/
theorem self_mem_nodes (e : Expr) : e ∈ e.nodes := by
  cases e <;> simp [nodes]

/-- Whether a condition holds of every node of a tree. -/
def Everywhere (p : Expr → Prop) (e : Expr) : Prop := ∀ n ∈ e.nodes, p n

section Everywhere

variable {p : Expr → Prop} {a b e : Expr} {ms : List Expr}

/-- A condition on every node is one on the root. -/
theorem Everywhere.root (h : e.Everywhere p) : p e := h e e.self_mem_nodes

/-- A condition on every node is one on every node of a part. -/
theorem Everywhere.of_subset (h : e.Everywhere p) (part : a.nodes ⊆ e.nodes) :
    a.Everywhere p := fun n hn => h n (part hn)

/-- A condition on every node of a comparison holds in both operands. -/
theorem Everywhere.comparison {op : ComparisonOperator}
    (h : (comparison op a b).Everywhere p) : a.Everywhere p ∧ b.Everywhere p :=
  ⟨h.of_subset (by simp [nodes]), h.of_subset (by simp [nodes])⟩

theorem Everywhere.logical {op : LogicalOperator}
    (h : (logical op a b).Everywhere p) : a.Everywhere p ∧ b.Everywhere p :=
  ⟨h.of_subset (by simp [nodes]), h.of_subset (by simp [nodes])⟩

theorem Everywhere.unary {op : UnaryOperator} (h : (unary op a).Everywhere p) :
    a.Everywhere p :=
  h.of_subset (by simp [nodes])

/-- A condition on every node of a membership holds in the probe and in every
member. -/
theorem Everywhere.membership {negated : Bool}
    (h : (membership a ms negated).Everywhere p) :
    a.Everywhere p ∧ ∀ m ∈ ms, m.Everywhere p := by
  constructor
  · exact h.of_subset (by simp [nodes])
  · intro m hm n hn
    apply h
    have inner : n ∈ ms.flatMap nodes := List.mem_flatMap.mpr ⟨m, hm, hn⟩
    rw [nodes, nodesOfMembers_eq]
    simp only [List.mem_append, inner, or_true, true_or]

end Everywhere

/-- Whether a tree is a literal or a column. -/
def isLeaf : Expr → Bool
  | literal _ | column _ => true
  | _ => false

/-- Whether a node is a membership. -/
def isMembership : Expr → Bool
  | membership .. => true
  | _ => false

/-- Whether no node of a tree is a membership. -/
def MembershipFree (e : Expr) : Prop := e.Everywhere (·.isMembership = false)

instance (e : Expr) : Decidable e.MembershipFree :=
  inferInstanceAs (Decidable (∀ n ∈ e.nodes, n.isMembership = false))

/-- A member is no larger than the list that it belongs to. -/
theorem size_le_sizeMembers {m : Expr} {ms : List Expr} (h : m ∈ ms) :
    m.size ≤ sizeMembers ms := by
  induction ms with
  | nil => cases h
  | cons a as ih =>
      rw [sizeMembers]
      rcases List.mem_cons.mp h with rfl | h
      · omega
      · have rest := ih h
        omega

end ScanFilter.Expr
