import ScanFilter.Proofs.Plan.Levels
import ScanFilter.Proofs.Plan.RoundTrip
/-!
# Plan bytes that are cut short, and bytes that follow them

A decoder looks at the bytes from the front and at nothing but what it takes.  So what
it says of some bytes it also says when more bytes come after them, with those bytes
left over — unless the bytes end too soon for it, and then it says just that.  Since the
plan bytes of a tree are read to their end, a strict prefix of them can neither be read
nor be refused for anything else.

* `Extends`, `Stable` — what is said of the first bytes, and of all of them;
* `Stable.bind`, `stable_take` — decoders in turn, and the one that looks at the bytes;
* `stable_expr` — trees of any number of levels;
* `decode_cut_or_followed` — plan bytes that are cut short or followed by others.
-/

namespace ScanFilter

namespace Plan

/-- Whether a fault says that the bytes end too soon. -/
def Fault.EndsTooSoon (fault : Fault) : Prop := fault = missingBytes ∨ fault = missingText

/-- Bytes that end too soon are an input error. -/
theorem Fault.EndsTooSoon.message {fault : Fault} (h : fault.EndsTooSoon) :
    ∃ reason, fault.message = "io error: " ++ reason := by
  rcases h with rfl | rfl
  · exact ⟨"unexpected end of file", rfl⟩
  · exact ⟨"", rfl⟩

variable {α β : Type} {d : Decoder α}

/-- What is said of the first bytes, and what is said of them with more bytes after
them. -/
inductive Extends (more : List UInt8) :
    Except Fault (α × List UInt8) → Except Fault (α × List UInt8) → Prop
  | value (a : α) (rest : List UInt8) : Extends more (.ok (a, rest)) (.ok (a, rest ++ more))
  | fault (fault : Fault) : Extends more (.error fault) (.error fault)
  | tooSoon {fault : Fault} (h : fault.EndsTooSoon) (result : Except Fault (α × List UInt8)) :
      Extends more (.error fault) result

/-- Whether a decoder says the same of some bytes with any bytes after them, unless they
end too soon. -/
def Stable (d : Decoder α) : Prop :=
  ∀ bytes more, Extends more (d bytes) (d (bytes ++ more))

theorem stable_pure (a : α) : Stable (pure a) := fun bytes _ => .value a bytes

theorem stable_throw (fault : Fault) : Stable (throw fault : Decoder α) :=
  fun _ _ => .fault fault

/-- Decoders in turn are stable. -/
theorem Stable.bind {f : α → Decoder β} (h : Stable d) (hf : ∀ a, Stable (f a)) :
    Stable (d >>= f) := by
  intro bytes more
  have first := h bytes more
  change Extends more (d bytes >>= fun x => f x.1 x.2)
    (d (bytes ++ more) >>= fun x => f x.1 x.2)
  generalize d bytes = x at first ⊢
  generalize d (bytes ++ more) = y at first ⊢
  cases first with
  | value a rest => exact hf a rest more
  | fault fault => exact .fault fault
  | tooSoon early result => exact .tooSoon early _

/-- A function of the value that a decoder gives looks at no bytes. -/
theorem Stable.map (h : Stable d) (f : α → β) : Stable (d >>= fun a => pure (f a)) :=
  h.bind fun a => stable_pure (f a)

/-- Bytes that are there are the same with more bytes after them. -/
theorem stable_take (n : Nat) {fault : Fault} (early : fault.EndsTooSoon) :
    Stable (Decoder.take n fault) := by
  intro bytes more
  unfold Decoder.take
  by_cases enough : (bytes.take n).length = n
  · have inside : n ≤ bytes.length := by
      rw [List.length_take] at enough
      omega
    rw [List.take_append_of_le_length inside, List.drop_append_of_le_length inside,
      if_pos enough, if_pos enough]
    exact .value _ _
  · rw [if_neg enough]
    exact .tooSoon early _

/-! ## The fields of a plan -/

theorem stable_word (width : Nat) : Stable (Decoder.word width) :=
  (stable_take width (.inl rfl)).map _

theorem stable_choice (all : List α) : Stable (Decoder.choice all) := by
  apply (stable_word 4).bind
  intro found
  cases all[found]? with
  | none => exact stable_throw _
  | some chosen => exact stable_pure chosen

theorem stable_truth : Stable Decoder.truth := by
  apply (stable_word 1).bind
  intro found
  split
  · exact stable_pure false
  · exact stable_pure true
  · exact stable_throw _

theorem stable_blob : Stable Decoder.blob := by
  apply (stable_word 8).bind
  intro length
  exact stable_take length (.inl rfl)

theorem stable_text : Stable Decoder.text := by
  apply (stable_word 8).bind
  intro length
  apply (stable_take length (.inr rfl)).bind
  intro bytes
  cases Utf8.decode bytes with
  | error fault => exact stable_throw _
  | ok s => exact stable_pure s

theorem stable_decimal : Stable Decoder.decimal := by
  apply stable_text.bind
  intro s
  cases Decimal.ofText s.toList with
  | error fault => exact stable_throw _
  | ok d => exact stable_pure d

theorem stable_payloadContent (tag : PayloadTag) :
    Stable (Decoder.payloadContent tag) := by
  cases tag with
  | null => exact stable_pure Payload.null
  | string => exact stable_text.map _
  | short => exact (stable_word 2).map _
  | int => exact (stable_word 4).map _
  | long => exact (stable_word 8).map _
  | double => exact (stable_word 8).map _
  | decimal => exact stable_decimal.map _
  | time => exact (stable_word 8).map _
  | boolean => exact stable_truth.map _
  | binary => exact stable_blob.map _

theorem stable_typedValue : Stable Decoder.typedValue := by
  apply (stable_choice DataType.all).bind
  intro type
  apply (stable_choice PayloadTag.all).bind
  intro tag
  exact (stable_payloadContent tag).map _

theorem stable_optionalText : Stable Decoder.optionalText := by
  apply (stable_word 1).bind
  intro mark
  split
  · exact stable_pure none
  · exact stable_text.map _
  · exact stable_throw _

theorem stable_column : Stable Decoder.column := by
  apply (stable_word 8).bind
  intro index
  exact stable_optionalText.map _

/-! ## Trees -/

theorem stable_times (h : Stable d) (n : Nat) : Stable (Decoder.times d n) := by
  induction n with
  | zero => exact stable_pure []
  | succ n ih =>
      apply h.bind
      intro a
      exact ih.map _

/-- More bytes change nothing of what is said of a tree. -/
theorem stable_expr (levels : Nat) : Stable (Decoder.expr levels) := by
  induction levels with
  | zero => exact fun _ _ => .tooSoon (.inl rfl) _
  | succ levels ih =>
      apply (stable_choice ExprTag.all).bind
      intro tag
      cases tag with
      | literal => exact stable_typedValue.map _
      | column => exact stable_column.map _
      | comparison =>
          apply (stable_choice ComparisonOperator.all).bind
          intro op
          apply ih.bind
          intro left
          exact ih.map _
      | logical =>
          apply (stable_choice LogicalOperator.all).bind
          intro op
          apply ih.bind
          intro left
          exact ih.map _
      | unary =>
          apply (stable_choice UnaryOperator.all).bind
          intro op
          exact ih.map _
      | membership =>
          apply ih.bind
          intro probe
          apply (stable_word 8).bind
          intro length
          apply (stable_times ih length).bind
          intro members
          exact stable_truth.map _

/-- Plan bytes that are cut short end too soon. -/
theorem expr_cut {e : Expr} {front more : List UInt8} (h : Written .denoting e (front ++ more))
    (cut : more ≠ []) :
    ∃ fault, Decoder.expr front.length front = .error fault ∧ fault.EndsTooSoon := by
  have levels : front.length ≤ (front ++ more).length := by
    rw [List.length_append]
    omega
  have whole := h.reads _ h.size_le []
  have said := stable_expr (front ++ more).length front more
  rw [List.append_nil] at whole
  rw [whole, expr_levels levels] at said
  generalize Decoder.expr front.length front = result at said ⊢
  -- Bytes that were left over would be left over from the whole, too.
  generalize left : (Except.ok (e, []) : Except Fault (Expr × List UInt8)) = total at said
  cases said with
  | value a rest =>
      have none : ([] : List UInt8) = rest ++ more := congrArg Prod.snd (Except.ok.inj left)
      exact absurd (List.append_eq_nil_iff.mp none.symm).2 cut
  | fault fault => cases left
  | tooSoon early result => exact ⟨_, rfl, early⟩

/-- **Plan bytes that are cut short or followed by others.**  Every strict prefix of the
plan bytes of a tree is refused because it ends too soon, which is an input error, and
bytes that follow the plan bytes change nothing. -/
theorem decode_cut_or_followed {e : Expr} (h : e.Addressable) :
    (∀ front, front <+: encode e → front ≠ encode e → ∃ fault,
      decode front = .error (.codec fault) ∧ fault.EndsTooSoon ∧
      ∃ reason, fault.message = "io error: " ++ reason) ∧
    (∀ rest, decode (encode e ++ rest) = decode (encode e)) := by
  constructor
  · intro front isPrefix strict
    obtain ⟨more, parts⟩ := isPrefix
    have cut : more ≠ [] := by
      intro none
      rw [none, List.append_nil] at parts
      exact strict parts
    have written := written_canonical h
    rw [← parts] at written
    obtain ⟨fault, refused, early⟩ := expr_cut written cut
    refine ⟨fault, ?_, early, early.message⟩
    unfold decode
    rw [refused]
  · intro rest
    rw [decode_encode_append h, decode_encode_canonical h]

/-- The price filter, cut off inside the text of its decimal and followed by a byte. -/
theorem decode_cut_or_followed_priceFilter :
    priceFilter.Addressable ∧
      (∃ fault, decode ((encode priceFilter).take 64) = .error (.codec fault) ∧
        fault.EndsTooSoon ∧ ∃ reason, fault.message = "io error: " ++ reason) ∧
      decode (encode priceFilter ++ [0xff]) = decode (encode priceFilter) := by
  have addressable : priceFilter.Addressable := by decide
  obtain ⟨cut, followed⟩ := decode_cut_or_followed addressable
  have strict : (encode priceFilter).take 64 ≠ encode priceFilter := by decide +kernel
  exact ⟨addressable, cut _ (List.take_prefix 64 _) strict, followed [0xff]⟩

end Plan

end ScanFilter
