import ScanFilter.Proofs.Plan.Accepted
/-!
# Levels are no limit

A tree is read by a decoder of as many levels as there are bytes.  This is what the
recursion is on, and no bound on the trees: every node takes the bytes of its tag before
its operands are read, so that the bytes run out before the levels do.  Any two numbers
of levels that cover the bytes give the same answer, a tree or a fault.

* `Alike`, `Alike.bind` — decoders that say the same of so many bytes;
* `expr_levels` — more levels than bytes change nothing.
-/

namespace ScanFilter

namespace Plan

variable {α β : Type} {d d' : Decoder α} {F : α → List UInt8 → Prop} {n k : Nat}

/-- Whether two decoders say the same of all that is no longer than so many bytes. -/
def Alike (n : Nat) (d d' : Decoder α) : Prop :=
  ∀ bytes : List UInt8, bytes.length ≤ n → d bytes = d' bytes

/-- Whether a decoder takes at least so many bytes off when it gives a value. -/
def Takes (k : Nat) (d : Decoder α) : Prop :=
  ∀ bytes a rest, d bytes = .ok (a, rest) → rest.length + k ≤ bytes.length

/-- A decoder takes as many bytes as its format has. -/
theorem Accepts.takes (h : Accepts d F) (wide : ∀ a front, F a front → k ≤ front.length) :
    Takes k d := by
  intro bytes a rest run
  obtain ⟨front, parts, format⟩ := h bytes a rest run
  have width := wide a front format
  rw [parts, List.length_append]
  omega

theorem takes_choice [DecidableEq α] {all : List α} (distinct : all.Nodup) (few : k ≤ 4) :
    Takes k (Decoder.choice all) := by
  apply (accepts_choice all distinct).takes
  intro a front written
  rw [written, length_choice]
  exact few

theorem takes_expr (levels : Nat) : Takes 0 (Decoder.expr levels) :=
  (accepts_expr levels).takes fun _ front _ => Nat.zero_le front.length

theorem alike_refl (n : Nat) (d : Decoder α) : Alike n d d := fun _ _ => rfl

/-- What follows a decoder that takes some bytes is given no more than the others. -/
theorem Alike.bind {f f' : α → Decoder β} (h : Alike (n + k) d d') (taken : Takes k d)
    (hf : ∀ a, Alike n (f a) (f' a)) : Alike (n + k) (d >>= f) (d' >>= f') := by
  intro bytes small
  change (d bytes >>= fun x => f x.1 x.2) = (d' bytes >>= fun x => f' x.1 x.2)
  rw [← h bytes small]
  cases run : d bytes with
  | error fault => rfl
  | ok result =>
      obtain ⟨a, rest⟩ := result
      have fewer := taken bytes a rest run
      have left : rest.length ≤ n := by omega
      exact hf a rest left

theorem Alike.map (h : Alike n d d') (f : α → β) :
    Alike n (d >>= fun a => pure (f a)) (d' >>= fun a => pure (f a)) := by
  intro bytes small
  change (d bytes >>= fun x => .ok (f x.1, x.2)) = (d' bytes >>= fun x => .ok (f x.1, x.2))
  rw [h bytes small]

theorem alike_times (h : Alike n d d') (taken : Takes 0 d) (count : Nat) :
    Alike n (Decoder.times d count) (Decoder.times d' count) := by
  induction count with
  | zero => exact alike_refl n _
  | succ count ih =>
      apply h.bind (k := 0) taken
      intro a
      exact ih.map _

/-- A decoder of some levels says of as many bytes what one of more levels does. -/
theorem alike_expr {m : Nat} (h : n ≤ m) : Alike n (Decoder.expr n) (Decoder.expr m) := by
  induction n generalizing m with
  | zero =>
      intro bytes empty
      rw [List.eq_nil_of_length_eq_zero (Nat.le_zero.mp empty)]
      -- Without bytes there is no tag, whether there are levels or not.
      cases m <;> rfl
  | succ n ih =>
      obtain ⟨j, rfl⟩ : ∃ j, m = j + 1 := ⟨m - 1, by omega⟩
      have deeper : Alike n (Decoder.expr n) (Decoder.expr j) := ih (by omega)
      have operand : Takes 0 (Decoder.expr n) := takes_expr n
      apply (alike_refl (n + 1) _).bind (takes_choice (by decide) (by decide))
      intro tag
      cases tag with
      | literal => exact alike_refl n _
      | column => exact alike_refl n _
      | comparison =>
          apply (alike_refl n _).bind (k := 0) (takes_choice (by decide) (by decide))
          intro op
          apply deeper.bind (k := 0) operand
          intro left
          exact deeper.map _
      | logical =>
          apply (alike_refl n _).bind (k := 0) (takes_choice (by decide) (by decide))
          intro op
          apply deeper.bind (k := 0) operand
          intro left
          exact deeper.map _
      | unary =>
          apply (alike_refl n _).bind (k := 0) (takes_choice (by decide) (by decide))
          intro op
          exact deeper.map _
      | membership =>
          apply deeper.bind (k := 0) operand
          intro probe
          have word : Takes 0 (Decoder.word 8) :=
            (accepts_word 8).takes fun _ front _ => Nat.zero_le front.length
          apply (alike_refl n _).bind (k := 0) word
          intro length
          have members : Takes 0 (Decoder.times (Decoder.expr n) length) :=
            (accepts_members (accepts_expr n) length).takes fun _ front _ =>
              Nat.zero_le front.length
          apply (alike_times deeper operand length).bind (k := 0) members
          intro list
          exact alike_refl n _

/-- **Levels are no limit.**  A decoder of at least as many levels as there are bytes
says of them what one of just so many levels says. -/
theorem expr_levels {levels : Nat} {bytes : List UInt8} (h : bytes.length ≤ levels) :
    Decoder.expr levels bytes = Decoder.expr bytes.length bytes :=
  (alike_expr h bytes (Nat.le_refl _)).symm

end Plan

end ScanFilter
