import ScanFilter.Proofs.Plan.Levels
/-!
# Lengths are believed as far as there are bytes

Plan bytes say how many members a list has and how many bytes a text or a byte string,
and they may say anything.  But a member takes at least eight bytes, whatever it is, so
that a list which is read is no longer than the bytes allow; and a fault anywhere in a
tree is a fault of the whole.  The size of a tree is bounded by the bytes in the same
way, at every depth.

* `Reaches`, `Reaches.error` — where a decoder comes to in some bytes, and that it does
  not get past a fault there;
* `times_overlong`, `take_overlong` — more members or bytes than are left;
* `decode_within_bytes` — what plan bytes may claim, and what a tree may cost.
-/

namespace ScanFilter

namespace Plan

variable {α β γ : Type}

/-- Whether a decoder, given some bytes, comes to run another one on what is left of
them: it is that one, or the first of two decoders in turn comes to it, or the second
does after the first gave a value. -/
inductive Reaches (c : Decoder γ) (left : List UInt8) :
    {α : Type} → Decoder α → List UInt8 → Prop
  | here : Reaches c left c left
  | first {α β : Type} {d : Decoder α} {bytes : List UInt8} (f : α → Decoder β)
      (h : Reaches c left d bytes) : Reaches c left (d >>= f) bytes
  | second {α β : Type} {d : Decoder α} {f : α → Decoder β} {bytes rest : List UInt8}
      {a : α} (run : d bytes = .ok (a, rest)) (h : Reaches c left (f a) rest) :
      Reaches c left (d >>= f) bytes

/-- A decoder does not get past a fault. -/
theorem Reaches.error {c : Decoder γ} {d : Decoder α} {left bytes : List UInt8}
    {fault : Fault} (h : Reaches c left d bytes) (failed : c left = .error fault) :
    d bytes = .error fault := by
  induction h with
  | here => exact failed
  | @first _ _ d bytes f h ih =>
      change (d bytes >>= fun x => f x.1 x.2) = _
      rw [ih]
      rfl
  | @second _ _ d f bytes rest a run h ih =>
      change (d bytes >>= fun x => f x.1 x.2) = _
      rw [run]
      exact ih

/-- Every tree of a list has a node. -/
theorem length_le_sizeMembers (ms : List Expr) : ms.length ≤ Expr.sizeMembers ms := by
  induction ms with
  | nil => exact Nat.le_refl 0
  | cons m ms ih =>
      have root := m.size_pos
      rw [Expr.sizeMembers, List.length_cons]
      omega

/-- Members for which there are no bytes are not read. -/
theorem times_overlong {levels count : Nat} {left : List UInt8}
    (h : left.length < 8 * count) :
    ∃ fault, Decoder.times (Decoder.expr levels) count left = .error fault := by
  cases run : Decoder.times (Decoder.expr levels) count left with
  | error fault => exact ⟨fault, rfl⟩
  | ok result =>
      obtain ⟨ms, rest⟩ := result
      obtain ⟨front, rfl, rfl, hms⟩ := accepts_members (accepts_expr levels) count left ms rest run
      have weight := hms.weight_le fun m _ xs hm => hm.weight_le
      have members := length_le_sizeMembers ms
      rw [List.length_append] at h
      omega

/-- Bytes that are not there are not taken. -/
theorem take_overlong {n : Nat} {left : List UInt8} (h : left.length < n) (fault : Fault) :
    Decoder.take n fault left = .error fault := by
  unfold Decoder.take
  rw [List.length_take]
  exact if_neg (by omega)

theorem decode_of_error {bytes : List UInt8} {fault : Fault}
    (h : Decoder.expr bytes.length bytes = .error fault) :
    decode bytes = .error (.codec fault) := by
  unfold decode
  rw [h]

/-- **Lengths are believed as far as there are bytes.**  Plan bytes have one answer, a
tree or a fault, which does not depend on the levels of the decoder once these cover the
bytes.  A tree that they decode to costs them eight bytes for every node and those that
its texts, byte strings and column names hold.  Wherever in a tree the decoder comes to
a list of more members, or to a field of more bytes, than what is left can hold, the
whole is refused. -/
theorem decode_within_bytes (bytes : List UInt8) :
    (∃ answer : Except Fault Expr, decode bytes = answer.mapError .codec ∧
      ∀ levels, bytes.length ≤ levels →
        (Decoder.expr levels bytes).map Prod.fst = answer) ∧
    (∀ e, decode bytes = .ok e → 8 * e.size + e.heldBytes ≤ bytes.length) ∧
    (∀ levels count left,
      Reaches (Decoder.times (Decoder.expr levels) count) left
        (Decoder.expr bytes.length) bytes →
      left.length < 8 * count → ∃ fault, decode bytes = .error (.codec fault)) ∧
    (∀ n fault left,
      Reaches (Decoder.take n fault) left (Decoder.expr bytes.length) bytes →
      left.length < n → decode bytes = .error (.codec fault)) := by
  refine ⟨⟨(Decoder.expr bytes.length bytes).map Prod.fst, ?_, ?_⟩, ?_, ?_, ?_⟩
  · unfold decode
    cases Decoder.expr bytes.length bytes <;> rfl
  · intro levels deep
    rw [expr_levels deep]
  · intro e decoded
    obtain ⟨front, rest, rfl, written⟩ := written_of_decode decoded
    have weight := written.weight_le
    rw [List.length_append]
    omega
  · intro levels count left reached overlong
    obtain ⟨fault, failed⟩ := times_overlong overlong
    exact ⟨fault, decode_of_error (reached.error failed)⟩
  · intro n fault left reached overlong
    exact decode_of_error (reached.error (take_overlong overlong fault))

/-- A negated membership in a list that claims to have as many members as a word can
say, with bytes for one. -/
def overlongPlan : List UInt8 :=
  choice ExprTag.all .unary ++ choice UnaryOperator.all .not
    ++ choice ExprTag.all .membership ++ encode (.literal .null)
    ++ lengthWord 0xffffffffffffffff ++ encode (.literal .null)

/-- The decoder comes to the list inside the negation, and the whole is refused. -/
theorem decode_within_bytes_overlongPlan :
    Reaches (Decoder.times (Decoder.expr 42) 0xffffffffffffffff) (encode (.literal .null))
        (Decoder.expr overlongPlan.length) overlongPlan ∧
      (encode (.literal .null)).length < 8 * 0xffffffffffffffff ∧
      ∃ fault, decode overlongPlan = .error (.codec fault) := by
  have operand : Reaches (Decoder.times (Decoder.expr 42) 0xffffffffffffffff)
      (encode (.literal .null)) (Decoder.expr 43) (overlongPlan.drop 8) :=
    .second (a := .membership) rfl
      (.second (a := .literal .null) rfl (.second (a := 0xffffffffffffffff) rfl (.first _ .here)))
  have reached : Reaches (Decoder.times (Decoder.expr 42) 0xffffffffffffffff)
      (encode (.literal .null)) (Decoder.expr 44) overlongPlan :=
    .second (a := .unary) rfl (.second (a := .not) rfl (.first _ operand))
  have overlong : (encode (.literal .null)).length < 8 * 0xffffffffffffffff := by decide
  exact ⟨reached, overlong, (decode_within_bytes overlongPlan).2.2.1 _ _ _ reached overlong⟩

end Plan

end ScanFilter
