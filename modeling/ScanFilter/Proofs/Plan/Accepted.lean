import Mathlib.Data.List.Nodup
import ScanFilter.Proofs.Plan.Written
/-!
# What the decoder accepts

The decoder has no way to take other bytes for a tree than those that are written for
it.  A word is determined by its number, a choice by its place, a truth value and a
mark by their one byte, a text by its characters and a list by its length and its
members; only the text of a decimal is left open, and it has to denote the decimal.
Fields that are taken off in turn were written in turn, so this comes down to each
field on its own, as reading does.

* `Accepts`, `Accepts.bind` — a decoder takes off only what is in a format;
* `accepts_word`, `accepts_choice`, `accepts_text`, … — the fields of a plan;
* `accepts_expr` — a tree of any number of levels;
* `decode_eq_ok_iff_written` — the bytes that decode to a tree.
-/

namespace ScanFilter

namespace Plan

open Bytes (littleEndian)

variable {α β : Type} {d : Decoder α} {F : α → List UInt8 → Prop} {G : β → List UInt8 → Prop}

/-- Whether a decoder takes off the front of the bytes only what is in a format for the
value that it gives. -/
def Accepts (d : Decoder α) (F : α → List UInt8 → Prop) : Prop :=
  ∀ bytes a rest, d bytes = .ok (a, rest) → ∃ front, bytes = front ++ rest ∧ F a front

/-- A value takes no bytes. -/
theorem accepts_pure {a : α} (h : F a []) : Accepts (pure a) F := by
  intro bytes b rest run
  cases run
  exact ⟨[], rfl, h⟩

/-- A fault accepts nothing. -/
theorem accepts_throw (fault : Fault) : Accepts (throw fault) F := by
  intro bytes a rest run
  cases run

/-- Decoders in turn take off what is in the one format and then in the other. -/
theorem Accepts.bind {f : α → Decoder β} (hd : Accepts d F)
    (hf : ∀ a xs, F a xs → Accepts (f a) fun b ys => G b (xs ++ ys)) :
    Accepts (d >>= f) G := by
  intro bytes b rest run
  change (d bytes >>= fun x => f x.1 x.2) = _ at run
  cases first : d bytes with
  | error fault =>
      rw [first] at run
      cases run
  | ok result =>
      obtain ⟨a, middle⟩ := result
      rw [first] at run
      obtain ⟨xs, rfl, hxs⟩ := hd bytes a middle first
      obtain ⟨ys, rfl, hys⟩ := hf a xs hxs middle b rest run
      exact ⟨xs ++ ys, (List.append_assoc xs ys rest).symm, hys⟩

/-- What is made of the value that a decoder gives takes no bytes. -/
theorem Accepts.map {f : α → β} (hd : Accepts d F) (hf : ∀ a xs, F a xs → G (f a) xs) :
    Accepts (d >>= fun a => pure (f a)) G := by
  apply hd.bind
  intro a xs hxs
  apply accepts_pure
  rw [List.append_nil]
  exact hf a xs hxs

/-- Bytes of a known number are taken as they are. -/
theorem accepts_take (n : Nat) (fault : Fault) :
    Accepts (Decoder.take n fault) fun taken front => front = taken ∧ front.length = n := by
  intro bytes taken rest run
  unfold Decoder.take at run
  split at run
  · next enough =>
      cases run
      exact ⟨bytes.take n, (List.take_append_drop n bytes).symm, rfl, enough⟩
  · cases run

/-- A word is determined by its number. -/
theorem accepts_word (width : Nat) :
    Accepts (Decoder.word width) fun n front =>
      n < Nat.pow 256 width ∧ front = littleEndian width n := by
  apply (accepts_take width .missingBytes).map
  intro taken xs h
  obtain ⟨rfl, rfl⟩ := h
  exact ⟨Bytes.ofLittleEndian_lt xs, (Bytes.littleEndian_ofLittleEndian xs).symm⟩

/-- A choice is determined by the place of the variant. -/
theorem accepts_choice [DecidableEq α] (all : List α) (distinct : all.Nodup) :
    Accepts (Decoder.choice all) fun a front => front = choice all a := by
  apply (accepts_word 4).bind
  intro n xs h
  obtain ⟨_, rfl⟩ := h
  cases found : all[n]? with
  | none => exact accepts_throw _
  | some a =>
      apply accepts_pure
      obtain ⟨inside, rfl⟩ := List.getElem?_eq_some_iff.mp found
      rw [List.append_nil, choice, distinct.idxOf_getElem n inside]

/-- A truth value is 0 or 1. -/
theorem accepts_truth : Accepts Decoder.truth fun b front => front = truth b := by
  apply (accepts_word 1).bind
  intro n xs h
  obtain ⟨_, rfl⟩ := h
  split
  · exact accepts_pure rfl
  · exact accepts_pure rfl
  · exact accepts_throw _

/-- A byte string is determined by its bytes. -/
theorem accepts_blob :
    Accepts Decoder.blob fun bytes front => IsWord bytes.length ∧ front = blob bytes := by
  apply (accepts_word 8).bind
  intro n xs h bytes taken rest run
  obtain ⟨small, rfl⟩ := h
  obtain ⟨front, split, rfl, rfl⟩ := accepts_take n _ bytes taken rest run
  exact ⟨front, split, small, rfl⟩

/-- A text is determined by its characters. -/
theorem accepts_text :
    Accepts Decoder.text fun s front => IsWord (Utf8.encode s).length ∧ front = text s := by
  apply (accepts_word 8).bind
  intro n xs h
  obtain ⟨small, rfl⟩ := h
  apply (accepts_take n .missingText).bind
  intro taken ys h
  obtain ⟨rfl, rfl⟩ := h
  cases decoded : Utf8.decode ys with
  | error fault => exact accepts_throw _
  | ok s =>
      apply accepts_pure
      have bytes := Utf8.encode_of_decode decoded
      rw [List.append_nil, text, bytes]
      exact ⟨small, rfl⟩

/-- A decimal is spelled by some text that denotes it. -/
theorem accepts_decimal :
    Accepts Decoder.decimal fun d front => ∃ s, Spelling.denoting d s ∧
      IsWord (Utf8.encode s).length ∧ front = text s := by
  apply accepts_text.bind
  intro s xs h
  obtain ⟨small, rfl⟩ := h
  cases denotes : Decimal.ofText s.toList with
  | error fault => exact accepts_throw _
  | ok d =>
      apply accepts_pure
      rw [List.append_nil]
      exact ⟨s, denotes, small, rfl⟩

-- An unsigned word is that of the signed integer of the same bits.

theorem toUInt16_ofNat {n : Nat} (h : n < Nat.pow 256 2) :
    (Int16.ofNat n).toUInt16.toNat = n :=
  UInt16.toNat_ofNat_of_lt h

theorem toUInt32_ofNat {n : Nat} (h : n < Nat.pow 256 4) :
    (Int32.ofNat n).toUInt32.toNat = n :=
  UInt32.toNat_ofNat_of_lt h

theorem toUInt64_ofNat {n : Nat} (h : n < Nat.pow 256 8) :
    (Int64.ofNat n).toUInt64.toNat = n :=
  UInt64.toNat_ofNat_of_lt h

/-- Whether a payload of a given variant is written for the front of the bytes. -/
abbrev OfTag (tag : PayloadTag) (p : Payload) (front : List UInt8) : Prop :=
  .ofPayload p = tag ∧ WrittenPayload .denoting p front

/-- A payload that is not a decimal is written as its content. -/
theorem ofTag_plain {p : Payload} (plain : ∀ d, p ≠ .decimal d) (fits : IsWord p.byteLength) :
    OfTag (.ofPayload p) p (payloadContent p) :=
  ⟨rfl, .plain plain fits⟩

/-- A payload that is made of one word is determined by it. -/
theorem accepts_ofWord {width : Nat} {tag : PayloadTag} {make : Nat → Payload}
    (variant : ∀ n, .ofPayload (make n) = tag) (plain : ∀ n d, make n ≠ .decimal d)
    (empty : ∀ n, (make n).byteLength = 0)
    (content : ∀ n, n < Nat.pow 256 width → payloadContent (make n) = littleEndian width n) :
    Accepts (Decoder.word width >>= fun n => pure (make n)) (OfTag tag) := by
  apply (accepts_word width).map
  intro n xs h
  obtain ⟨small, rfl⟩ := h
  have fits : IsWord (make n).byteLength := by
    rw [empty n]
    decide
  have written := ofTag_plain (plain n) fits
  rwa [content n small, variant n] at written

/-- The content of a payload is written for a payload of that variant. -/
theorem accepts_payloadContent (tag : PayloadTag) :
    Accepts (Decoder.payloadContent tag) (OfTag tag) := by
  cases tag with
  | null =>
      apply accepts_pure
      exact ofTag_plain (p := .null) (fun d => Payload.noConfusion) (by decide)
  | string =>
      apply accepts_text.map
      intro s xs h
      obtain ⟨small, rfl⟩ := h
      exact ofTag_plain (p := .string s) (fun d => Payload.noConfusion) small
  | short =>
      exact accepts_ofWord (fun n => rfl) (fun n d => Payload.noConfusion) (fun n => rfl)
        fun n h => congrArg (littleEndian 2) (toUInt16_ofNat h)
  | int =>
      exact accepts_ofWord (fun n => rfl) (fun n d => Payload.noConfusion) (fun n => rfl)
        fun n h => congrArg (littleEndian 4) (toUInt32_ofNat h)
  | long =>
      exact accepts_ofWord (fun n => rfl) (fun n d => Payload.noConfusion) (fun n => rfl)
        fun n h => congrArg (littleEndian 8) (toUInt64_ofNat h)
  | double =>
      exact accepts_ofWord (fun n => rfl) (fun n d => Payload.noConfusion) (fun n => rfl)
        fun n h => congrArg (littleEndian 8) (UInt64.toNat_ofNat_of_lt h)
  | decimal =>
      apply accepts_decimal.map
      intro d xs h
      obtain ⟨s, denotes, small, rfl⟩ := h
      exact ⟨rfl, .decimal denotes small⟩
  | time =>
      exact accepts_ofWord (fun n => rfl) (fun n d => Payload.noConfusion) (fun n => rfl)
        fun n h => congrArg (littleEndian 8) (toUInt64_ofNat h)
  | boolean =>
      apply accepts_truth.map
      intro b xs h
      subst h
      have fits : IsWord (Payload.boolean b).byteLength := by cases b <;> decide
      exact ofTag_plain (fun d => Payload.noConfusion) fits
  | binary =>
      apply accepts_blob.map
      intro bytes xs h
      obtain ⟨small, rfl⟩ := h
      exact ofTag_plain (p := .binary bytes) (fun d => Payload.noConfusion) small

theorem accepts_typedValue : Accepts Decoder.typedValue (WrittenValue .denoting) := by
  apply (accepts_choice DataType.all (by decide)).bind
  intro t xs h
  subst h
  apply (accepts_choice PayloadTag.all (by decide)).bind
  intro tag ys h
  subst h
  apply (accepts_payloadContent tag).map
  intro p zs h
  obtain ⟨rfl, hp⟩ := h
  rw [← List.append_assoc]
  exact .mk (v := ⟨t, p⟩) hp

theorem accepts_column :
    Accepts Decoder.column fun c front => IsWord c.byteLength ∧ front = column c := by
  apply (accepts_word 8).bind
  intro n xs h
  obtain ⟨small, rfl⟩ := h
  have index : (UInt64.ofNat n).toNat = n := UInt64.toNat_ofNat_of_lt small
  have label : Accepts Decoder.optionalText fun label front =>
      IsWord (Column.mk (.ofNat n) label).byteLength ∧ front = optionalText label := by
    apply (accepts_word 1).bind
    intro mark ys h
    obtain ⟨_, rfl⟩ := h
    split
    · exact accepts_pure ⟨Nat.zero_lt_succ _, rfl⟩
    · apply accepts_text.map
      intro s zs h
      obtain ⟨small, rfl⟩ := h
      exact ⟨small, rfl⟩
    · exact accepts_throw _
  apply label.map
  intro label ys h
  obtain ⟨small, rfl⟩ := h
  exact ⟨small, by rw [column, index]⟩

/-- Members are taken off one by one. -/
theorem accepts_members {d : Decoder Expr} (h : Accepts d (Written .denoting)) (n : Nat) :
    Accepts (Decoder.times d n) fun ms front =>
      ms.length = n ∧ WrittenMembers .denoting ms front := by
  induction n with
  | zero => exact accepts_pure ⟨rfl, .nil⟩
  | succ n ih =>
      apply h.bind
      intro m xs hm
      apply ih.map
      intro ms ys h
      obtain ⟨rfl, hms⟩ := h
      exact ⟨rfl, .cons hm hms⟩

/-- A decoder of trees takes off what is written for the tree that it gives. -/
theorem accepts_expr (levels : Nat) :
    Accepts (Decoder.expr levels) (Written .denoting) := by
  induction levels with
  | zero => exact accepts_throw _
  | succ levels ih =>
      apply (accepts_choice ExprTag.all (by decide)).bind
      intro tag xs h
      subst h
      cases tag with
      | literal =>
          apply accepts_typedValue.map
          intro v ys hv
          exact .literal hv
      | column =>
          apply accepts_column.map
          intro c ys h
          obtain ⟨small, rfl⟩ := h
          exact .column small
      | comparison =>
          apply (accepts_choice ComparisonOperator.all (by decide)).bind
          intro op ys h
          subst h
          apply ih.bind
          intro a as ha
          apply ih.map
          intro b bs hb
          simp only [← List.append_assoc]
          exact .comparison ha hb
      | logical =>
          apply (accepts_choice LogicalOperator.all (by decide)).bind
          intro op ys h
          subst h
          apply ih.bind
          intro a as ha
          apply ih.map
          intro b bs hb
          simp only [← List.append_assoc]
          exact .logical ha hb
      | unary =>
          apply (accepts_choice UnaryOperator.all (by decide)).bind
          intro op ys h
          subst h
          apply ih.map
          intro a as ha
          simp only [← List.append_assoc]
          exact .unary ha
      | membership =>
          apply ih.bind
          intro a as ha
          apply (accepts_word 8).bind
          intro n ns h
          obtain ⟨small, rfl⟩ := h
          apply (accepts_members ih n).bind
          intro ms bs h
          obtain ⟨rfl, hms⟩ := h
          apply accepts_truth.map
          intro negated zs h
          subst h
          simp only [← List.append_assoc]
          exact .membership ha hms small

/-- Bytes that decode to a tree begin with what is written for it. -/
theorem written_of_decode {bytes : List UInt8} {e : Expr} (decoded : decode bytes = .ok e) :
    ∃ front rest, bytes = front ++ rest ∧ Written .denoting e front := by
  unfold decode at decoded
  split at decoded
  · next rest run =>
      cases decoded
      obtain ⟨front, parts, written⟩ := accepts_expr _ _ _ _ run
      exact ⟨front, rest, parts, written⟩
  · cases decoded

/-- **The decoder accepts exactly its format.**  The bytes that decode to a tree are
those that begin with what is written for it, each decimal spelled by some text that
denotes it.  Where these texts are as decimals are printed, the plan bytes of the tree
are the very bytes that were read. -/
theorem decode_eq_ok_iff_written (bytes : List UInt8) (e : Expr) :
    (decode bytes = .ok e ↔
      ∃ front rest, bytes = front ++ rest ∧ Written .denoting e front) ∧
    (∀ front rest, bytes = front ++ rest → Written .printed e front →
      decode bytes = .ok e ∧ encode e = front) := by
  refine ⟨⟨written_of_decode, ?_⟩, ?_⟩
  · intro h
    obtain ⟨front, rest, rfl, written⟩ := h
    exact decode_of_written written rest
  · intro front rest h written
    subst h
    have denoted : Written .denoting e front := written.mono fun d s h => h.1
    exact ⟨decode_of_written denoted rest, encode_of_printed written⟩

/-- The decimal 2.5 is read from the text `+2.5`, too, which is not printed for it. -/
theorem decode_respelled :
    decode ([0, 0, 0, 0, 7, 0, 0, 0, 6, 0, 0, 0, 4, 0, 0, 0, 0, 0, 0, 0] ++ [43, 50, 46, 53]) =
      .ok (.literal (.decimal ⟨25, 1⟩)) := by
  have denotes : Spelling.denoting ⟨25, 1⟩ "+2.5" := by
    unfold Spelling.denoting
    decide +kernel
  have written := Written.literal (.mk (v := .decimal ⟨25, 1⟩) (.decimal denotes (by decide)))
  exact (decode_eq_ok_iff_written _ _).1.mpr ⟨_, [], by decide +kernel, written⟩

end Plan

end ScanFilter
