import ScanFilter.Plan.Decoding
import ScanFilter.Plan.Encoding
import ScanFilter.Proofs.Text.Utf8
/-!
# Fields that are read back

A decoder **reads** a value from some bytes when it gives the value and takes
just these bytes off, whatever comes after them.  Decoders in turn read what their
encoders wrote in turn, so that every field of a plan is settled on its own.

* `Reads.bind`, `Reads.map` — decoders put together from decoders;
* `reads_word`, `reads_choice`, `reads_blob`, `reads_text` — the fields of a plan;
* `reads_payloadContent`, `reads_column` — what the leaves of a tree hold.
-/

namespace ScanFilter

/-- Whether a length is a 64-bit word, as that of everything in memory is. -/
abbrev Plan.IsWord (n : Nat) : Prop := n < 0x10000000000000000

/-- How many bytes the text or byte string of a payload takes. -/
def Payload.byteLength : Payload → Nat
  | string s => (Utf8.encode s).length
  | decimal d => (Utf8.encode (String.ofList d.text)).length
  | binary bytes => bytes.length
  | _ => 0

/-- How many bytes the name of a column takes. -/
def Column.byteLength (c : Column) : Nat :=
  match c.label with
  | some s => (Utf8.encode s).length
  | none => 0

namespace Plan

open Bytes (littleEndian)

variable {α β : Type} {d : Decoder α} {xs ys : List UInt8} {a : α} {b : β}

/-- Whether a decoder gives a value and takes some bytes off, whatever comes after
them. -/
def Reads (d : Decoder α) (front : List UInt8) (a : α) : Prop :=
  ∀ rest, d (front ++ rest) = .ok (a, rest)

/-- A value is there without bytes. -/
theorem reads_pure (a : α) : Reads (pure a) [] a := fun _ => rfl

/-- Decoders in turn read bytes in turn. -/
theorem Reads.bind {f : α → Decoder β} (ha : Reads d xs a) (hb : Reads (f a) ys b) :
    Reads (d >>= f) (xs ++ ys) b := by
  intro rest
  change (d (xs ++ ys ++ rest) >>= fun x => f x.1 x.2) = _
  rw [List.append_assoc, ha (ys ++ rest)]
  exact hb rest

/-- What is made of the value that a decoder reads may take no bytes. -/
theorem Reads.andThen {f : α → Decoder β} (ha : Reads d xs a) (hb : Reads (f a) [] b) :
    Reads (d >>= f) xs b := by
  have whole := ha.bind hb
  rwa [List.append_nil] at whole

/-- A function of the value that a decoder reads takes no bytes. -/
theorem Reads.map (f : α → β) (h : Reads d xs a) :
    Reads (d >>= fun a => pure (f a)) xs (f a) :=
  h.andThen (reads_pure (f a))

/-- Bytes of a known number are read. -/
theorem reads_take (front : List UInt8) (fault : Fault) :
    Reads (Decoder.take front.length fault) front front :=
  fun rest => Decoder.take_append front rest fault

/-- A word is read back. -/
theorem reads_word (width : Nat) {n : Nat} (h : n < Nat.pow 256 width) :
    Reads (Decoder.word width) (littleEndian width n) n := by
  have front := reads_take (littleEndian width n) .missingBytes
  rw [Bytes.length_littleEndian] at front
  have whole := front.map Bytes.ofLittleEndian
  rwa [Bytes.ofLittleEndian_littleEndian h] at whole

theorem reads_lengthWord {n : Nat} (h : IsWord n) :
    Reads (Decoder.word 8) (lengthWord n) n :=
  reads_word 8 h

/-- A choice is read back. -/
theorem reads_choice [DecidableEq α] {all : List α} (h : a ∈ all)
    (few : all.length < 0x100000000) : Reads (Decoder.choice all) (choice all a) a := by
  have inside : all.idxOf a < all.length := List.idxOf_lt_length_iff.mpr h
  have place : Reads (Decoder.word 4) (choice all a) (all.idxOf a) :=
    reads_word 4 (Nat.lt_trans inside few)
  refine place.andThen ?_
  rw [List.getElem?_eq_getElem inside, List.getElem_idxOf inside]
  exact reads_pure a

/-- A truth value is read back. -/
theorem reads_truth (b : Bool) : Reads Decoder.truth (truth b) b := by
  cases b with
  | false => exact fun _ => rfl
  | true => exact fun _ => rfl

/-- A byte string is read back. -/
theorem reads_blob {bytes : List UInt8} (h : IsWord bytes.length) :
    Reads Decoder.blob (blob bytes) bytes :=
  (reads_lengthWord h).bind (reads_take bytes .missingBytes)

/-- A text is read back. -/
theorem reads_text {s : String} (h : IsWord (Utf8.encode s).length) :
    Reads Decoder.text (text s) s := by
  refine (reads_lengthWord h).bind ((reads_take _ .missingText).andThen ?_)
  rw [Utf8.decode_encode]
  exact reads_pure s

/-- A text that denotes a decimal is read back as the decimal. -/
theorem reads_decimal {d : Decimal} {s : String} (denotes : Decimal.ofText s.toList = .ok d)
    (h : IsWord (Utf8.encode s).length) : Reads Decoder.decimal (text s) d := by
  refine (reads_text h).andThen ?_
  rw [denotes]
  exact reads_pure d

/-- The content of a payload is read back, decimals apart. -/
theorem reads_payloadContent {p : Payload} (plain : ∀ d, p ≠ .decimal d)
    (h : IsWord p.byteLength) :
    Reads (Decoder.payloadContent (.ofPayload p)) (payloadContent p) p := by
  cases p with
  | null => exact reads_pure Payload.null
  | string s => exact (reads_text h).map Payload.string
  | short n =>
      have whole := (reads_word 2 n.toUInt16.toNat_lt).map (Payload.short ∘ .ofNat)
      rwa [Function.comp, Integer.ofNat_toUInt16] at whole
  | int n =>
      have whole := (reads_word 4 n.toUInt32.toNat_lt).map (Payload.int ∘ .ofNat)
      rwa [Function.comp, Integer.ofNat_toUInt32] at whole
  | long n =>
      have whole := (reads_word 8 n.toUInt64.toNat_lt).map (Payload.long ∘ .ofNat)
      rwa [Function.comp, Integer.ofNat_toUInt64] at whole
  | double x =>
      have whole := (reads_word 8 x.bits.toNat_lt).map
        (fun n => Payload.double ⟨.ofNat n⟩)
      rwa [UInt64.ofNat_toNat] at whole
  | decimal d => exact absurd rfl (plain d)
  | time millis =>
      have whole := (reads_word 8 millis.toUInt64.toNat_lt).map
        (Payload.time ∘ .ofNat)
      rwa [Function.comp, Integer.ofNat_toUInt64] at whole
  | boolean b => exact (reads_truth b).map Payload.boolean
  | binary bytes => exact (reads_blob h).map Payload.binary

/-- A reference to a column is read back. -/
theorem reads_column {c : Column} (h : IsWord c.byteLength) :
    Reads Decoder.column (column c) c := by
  have index : Reads (Decoder.word 8) (littleEndian 8 c.index.toNat) c.index.toNat :=
    reads_word 8 c.index.toNat_lt
  have label : Reads Decoder.optionalText (optionalText c.label) c.label := by
    unfold Column.byteLength at h
    cases hc : c.label with
    | none => exact fun _ => rfl
    | some s =>
        have mark : Reads (Decoder.word 1) [1] 1 := fun _ => rfl
        rw [hc] at h
        exact mark.bind ((reads_text h).map some)
  refine index.bind ?_
  rw [UInt64.ofNat_toNat]
  exact label.map (Column.mk c.index)

end Plan

end ScanFilter
