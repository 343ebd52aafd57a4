import Mathlib.Data.List.Basic
import ScanFilter.Proofs.Expr.Canonical
import ScanFilter.Proofs.Plan.Written
/-!
# A tree that travels as plan bytes

The decoder gives back the canonical form of the tree that was encoded: the same
nodes over the same literals, decimals as numbers.  No description tells the two
trees apart, and neither do their plan bytes.

* `encode_canonical` — a tree and its canonical form have the same plan bytes;
* `decode_encode_append` — a tree is read back in canonical form, whatever comes after
  its plan bytes;
* `decode_encode_agrees` — a tree survives the way through plan bytes.
-/

namespace ScanFilter

namespace Expr

/-- The length that the root of a tree carries: that of its text, its byte string
or its list. -/
def rootLength : Expr → Nat
  | literal v => v.payload.byteLength
  | column c => c.byteLength
  | membership _ ms _ => ms.length
  | _ => 0

/-- Whether every text, byte string and list of a tree has a length in 64 bits. -/
def Addressable (e : Expr) : Prop := e.Everywhere fun n => Plan.IsWord n.rootLength

instance (e : Expr) : Decidable e.Addressable :=
  inferInstanceAs (Decidable (∀ n ∈ e.nodes, Plan.IsWord n.rootLength))

end Expr

namespace Plan

theorem encodeMembers_eq (ms : List Expr) : encodeMembers ms = ms.flatMap encode := by
  induction ms with
  | nil => rfl
  | cons m ms ih => rw [encodeMembers, ih, List.flatMap_cons]

/-- A payload and its canonical form have the same content. -/
theorem payloadContent_canonical (p : Payload) :
    payloadContent p.canonical = payloadContent p := by
  cases p with
  | decimal d => exact congrArg (fun s => text (String.ofList s)) d.text_canonical
  | _ => rfl

/-- A payload and its canonical form are of one variant. -/
theorem ofPayload_canonical (p : Payload) :
    PayloadTag.ofPayload p.canonical = .ofPayload p := by
  cases p <;> rfl

theorem typedValue_canonical (v : TypedValue) : typedValue v.canonical = typedValue v := by
  unfold typedValue TypedValue.canonical
  rw [ofPayload_canonical, payloadContent_canonical]

/-- A tree and its canonical form have the same bytes. -/
theorem encode_canonical (e : Expr) : encode e.canonical = encode e := by
  induction e using Expr.induction with
  | literal v => rw [Expr.canonical, encode, encode, typedValue_canonical]
  | column c => rfl
  | comparison op a b iha ihb => rw [Expr.canonical, encode, encode, iha, ihb]
  | logical op a b iha ihb => rw [Expr.canonical, encode, encode, iha, ihb]
  | unary op a iha => rw [Expr.canonical, encode, encode, iha]
  | membership a ms negated iha ihms =>
      have members : (ms.map Expr.canonical).flatMap encode = ms.flatMap encode := by
        rw [List.flatMap_map]
        exact List.flatMap_congr ihms
      rw [Expr.canonical, encode, encode, iha, Expr.canonicalMembers_eq, encodeMembers_eq,
        encodeMembers_eq, members, List.length_map]

/-! ## The plan bytes of a tree are written for its canonical form -/

theorem writtenPayload_canonical {p : Payload} (h : IsWord p.byteLength) :
    WrittenPayload .denoting p.canonical (payloadContent p) := by
  cases p with
  | decimal d =>
      have denotes : Spelling.denoting d.canonical (String.ofList d.text) := by
        unfold Spelling.denoting
        rw [String.toList_ofList, Decimal.ofText_text]
      exact .decimal denotes h
  | _ => exact .plain (fun d => Payload.noConfusion) h

theorem writtenValue_canonical {v : TypedValue} (h : IsWord v.payload.byteLength) :
    WrittenValue .denoting v.canonical (typedValue v) := by
  have written := WrittenValue.mk (v := v.canonical) (writtenPayload_canonical h)
  rwa [show v.canonical.payload = v.payload.canonical from rfl, ofPayload_canonical] at written

/-- A list of plan bytes is written for canonical forms, if that is so for each tree. -/
theorem writtenMembers_canonical {ms : List Expr}
    (h : ∀ m ∈ ms, Written .denoting m.canonical (encode m)) :
    WrittenMembers .denoting (Expr.canonicalMembers ms) (encodeMembers ms) := by
  induction ms with
  | nil => exact .nil
  | cons m ms ih =>
      exact .cons (h m List.mem_cons_self) (ih fun n hn => h n (List.mem_cons_of_mem m hn))

/-- The plan bytes of a tree are written for its canonical form. -/
theorem written_canonical {e : Expr} (h : e.Addressable) :
    Written .denoting e.canonical (encode e) := by
  induction e using Expr.induction with
  | literal v => exact .literal (writtenValue_canonical h.root)
  | column c => exact .column h.root
  | comparison op a b iha ihb =>
      obtain ⟨left, right⟩ := h.comparison
      exact .comparison (iha left) (ihb right)
  | logical op a b iha ihb =>
      obtain ⟨left, right⟩ := h.logical
      exact .logical (iha left) (ihb right)
  | unary op a iha => exact .unary (iha h.unary)
  | membership a ms negated iha ihms =>
      obtain ⟨probe, members⟩ := h.membership
      have length : (Expr.canonicalMembers ms).length = ms.length := by
        rw [Expr.canonicalMembers_eq, List.length_map]
      have fits : IsWord (Expr.canonicalMembers ms).length := length ▸ h.root
      have list := writtenMembers_canonical fun m hm => ihms m hm (members m hm)
      have written : Written .denoting (Expr.membership a ms negated).canonical _ :=
        .membership (iha probe) list fits
      rwa [length] at written

/-- Decoding gives back the canonical form of the tree that was encoded, whatever comes
after it. -/
theorem decode_encode_append {e : Expr} (h : e.Addressable) (rest : List UInt8) :
    decode (encode e ++ rest) = .ok e.canonical :=
  decode_of_written (written_canonical h) rest

/-- Decoding gives back the canonical form of the tree that was encoded. -/
theorem decode_encode_canonical {e : Expr} (h : e.Addressable) :
    decode (encode e) = .ok e.canonical := by
  have whole := decode_encode_append h []
  rwa [List.append_nil] at whole

/-- What a tree has in common with the one that its plan bytes give back. -/
structure Survives (e e' : Expr) : Prop where
  /-- The same nodes, declared types and payloads, decimals as numbers. -/
  agrees : e.Agrees e'
  /-- Equal as trees, unless a NaN that equals nothing is among the literals. -/
  same : e.NaNFree → e.same e' = true
  kind : e'.kind = e.kind
  describe : e'.describe = e.describe
  encode : encode e' = encode e

/-- **Round trip.**  The plan bytes of a tree, of any shape and over any literals,
decode to a tree that agrees with it, is described alike and has the same plan
bytes again. -/
theorem decode_encode_agrees {e : Expr} (h : e.Addressable) :
    ∃ e', decode (encode e) = .ok e' ∧ Survives e e' := by
  refine ⟨e.canonical, decode_encode_canonical h, ?_⟩
  exact {
    agrees := e.agrees_canonical
    same := Expr.same_canonical
    kind := e.kind_canonical
    describe := e.describe_canonical
    encode := encode_canonical e }

/-- A price of at most 0.30, for a name that is not among two members. -/
def priceFilter : Expr :=
  .logical .and
    (.comparison .lessThanEqualTo (.column ⟨1, some "price"⟩) (.literal (.decimal ⟨30, 2⟩)))
    (.membership (.column ⟨0, none⟩)
      [.literal (.string "café"), .literal ⟨.int, .binary [0xff]⟩] true)

/-- The price filter survives, with its decimal and its mismatched member. -/
theorem decode_encode_agrees_priceFilter :
    priceFilter.Addressable ∧
      ∃ e', decode (encode priceFilter) = .ok e' ∧ Survives priceFilter e' :=
  ⟨by decide, decode_encode_agrees (by decide)⟩

end Plan

end ScanFilter
