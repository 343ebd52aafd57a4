import ScanFilter.Expr.Describe
import ScanFilter.Proofs.Expr.Nodes
import ScanFilter.Proofs.Value.Agreement
/-!
# Trees that differ in the form of a decimal

Two trees **agree** when they have the same nodes over the same columns and over
literals that agree.  The **canonical** form of a tree holds its literals in
canonical form; it agrees with the tree, and no description tells them apart.

* `agrees_canonical` — a tree agrees with its canonical form;
* `describe_canonical`, `kind_canonical` — both are described alike;
* `same_canonical` — a tree without NaN equals its canonical form.
-/

namespace ScanFilter.Expr

mutual

/-- The tree with every literal in canonical form. -/
def canonical : Expr → Expr
  | literal v => literal v.canonical
  | column c => column c
  | comparison op a b => comparison op (canonical a) (canonical b)
  | logical op a b => logical op (canonical a) (canonical b)
  | unary op a => unary op (canonical a)
  | membership a ms negated => membership (canonical a) (canonicalMembers ms) negated

/-- The trees of a list with every literal in canonical form. -/
def canonicalMembers : List Expr → List Expr
  | [] => []
  | a :: as => canonical a :: canonicalMembers as

end

mutual

/-- Whether two trees have the same nodes, with the same operators, flags,
columns and lists of members, over literals that agree. -/
def Agrees : Expr → Expr → Prop
  | literal v, literal w => v.Agrees w
  | column c, column d => c = d
  | comparison op a b, comparison op' a' b' => op = op' ∧ Agrees a a' ∧ Agrees b b'
  | logical op a b, logical op' a' b' => op = op' ∧ Agrees a a' ∧ Agrees b b'
  | unary op a, unary op' a' => op = op' ∧ Agrees a a'
  | membership a ms negated, membership a' ms' negated' =>
    Agrees a a' ∧ AgreesMembers ms ms' ∧ negated = negated'
  | _, _ => False

/-- Whether two lists of trees agree, tree by tree. -/
def AgreesMembers : List Expr → List Expr → Prop
  | [], [] => True
  | a :: as, b :: bs => Agrees a b ∧ AgreesMembers as bs
  | _, _ => False

end

/-- Whether no literal of a tree is a NaN. -/
def NaNFree (e : Expr) : Prop := e.Everywhere fun
  | literal v => v.isNaN = false
  | _ => True

theorem canonicalMembers_eq (ms : List Expr) : canonicalMembers ms = ms.map canonical := by
  induction ms with
  | nil => rfl
  | cons m ms ih => rw [canonicalMembers, ih, List.map_cons]

theorem describeMembers_eq (ms : List Expr) : describeMembers ms = ms.map describe := by
  induction ms with
  | nil => rfl
  | cons m ms ih => rw [describeMembers, ih, List.map_cons]

/-- The root of a canonical form does what the root of the tree does. -/
theorem kind_canonical (e : Expr) : e.canonical.kind = e.kind := by
  cases e with
  | membership a ms negated => cases negated <;> rfl
  | _ => rfl

/-- The description of a canonical form is that of the tree. -/
theorem describe_canonical (e : Expr) : e.canonical.describe = e.describe := by
  induction e using Expr.induction with
  | literal v =>
      rw [canonical, describe, describe,
        TypedValue.text_of_canonical (v := v.canonical) (w := v) v.canonical_canonical]
  | column c => rfl
  | comparison op a b iha ihb => rw [canonical, describe, describe, iha, ihb]
  | logical op a b iha ihb => rw [canonical, describe, describe, iha, ihb]
  | unary op a iha => rw [canonical, describe, describe, iha]
  | membership a ms negated iha ihms =>
      have members : describeMembers (canonicalMembers ms) = describeMembers ms := by
        rw [canonicalMembers_eq, describeMembers_eq, describeMembers_eq, List.map_map]
        exact List.map_congr_left ihms
      rw [canonical, describe, describe, iha, members]

/-- A list agrees with another one as soon as its trees do. -/
theorem agreesMembers_map {ms : List Expr} {f : Expr → Expr} (h : ∀ m ∈ ms, m.Agrees (f m)) :
    AgreesMembers ms (ms.map f) := by
  induction ms with
  | nil => trivial
  | cons m ms ih =>
      exact ⟨h m List.mem_cons_self, ih (fun m hm => h m (List.mem_cons_of_mem _ hm))⟩

/-- A list equals another one as soon as its trees do. -/
theorem sameMembers_map {ms : List Expr} {f : Expr → Expr}
    (h : ∀ m ∈ ms, m.same (f m) = true) : sameMembers ms (ms.map f) = true := by
  induction ms with
  | nil => rfl
  | cons m ms ih =>
      have tail := ih (fun m hm => h m (List.mem_cons_of_mem _ hm))
      rw [List.map_cons, sameMembers, h m List.mem_cons_self, tail]
      rfl

/-- A tree agrees with its canonical form. -/
theorem agrees_canonical (e : Expr) : e.Agrees e.canonical := by
  induction e using Expr.induction with
  | literal v => exact TypedValue.agrees_of_canonical v.canonical_canonical.symm
  | column c => exact rfl
  | comparison op a b iha ihb => exact ⟨rfl, iha, ihb⟩
  | logical op a b iha ihb => exact ⟨rfl, iha, ihb⟩
  | unary op a iha => exact ⟨rfl, iha⟩
  | membership a ms negated iha ihms =>
      refine ⟨iha, ?_, rfl⟩
      rw [canonicalMembers_eq]
      exact agreesMembers_map ihms

/-- A tree without NaN equals its canonical form. -/
theorem same_canonical {e : Expr} (h : e.NaNFree) : e.same e.canonical = true := by
  induction e using Expr.induction with
  | literal v => exact TypedValue.same_canonical h.root
  | column c => exact beq_self_eq_true c
  | comparison op a b iha ihb =>
      obtain ⟨left, right⟩ := h.comparison
      simp [canonical, same, iha left, ihb right]
  | logical op a b iha ihb =>
      obtain ⟨left, right⟩ := h.logical
      simp [canonical, same, iha left, ihb right]
  | unary op a iha =>
      simp [canonical, same, iha h.unary]
  | membership a ms negated iha ihms =>
      obtain ⟨probe, members⟩ := h.membership
      have list := sameMembers_map (fun m hm => ihms m hm (members m hm))
      simp [canonical, canonicalMembers_eq, same, iha probe, list]

end ScanFilter.Expr
