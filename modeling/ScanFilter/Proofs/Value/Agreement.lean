import ScanFilter.FilterError
import ScanFilter.Proofs.Decimal.Number
import ScanFilter.Proofs.Outcome
/-!
# Values that differ in the form of a decimal

The same number has many forms as a decimal, and a journey through a text can
change the form.  Two values **agree** when they declare one type and hold the
same payload, decimals being the same number and doubles the same word.  The
**canonical** form of a value holds the canonical form of its decimal; values with
one canonical form agree, and they have one text as well.

* `agrees_of_canonical` — values with one canonical form agree;
* `text_of_canonical` — they have the same text;
* `same_canonical` — a value other than NaN equals its canonical form.
-/

namespace ScanFilter

namespace Payload

/-- The payload with its decimal in canonical form. -/
def canonical : Payload → Payload
  | decimal d => decimal d.canonical
  | p => p

/-- Whether two payloads are the same, decimals as numbers and doubles as
words. -/
def Agrees : Payload → Payload → Prop
  | decimal a, decimal b => a.value = b.value
  | p, q => p = q

/-- Whether a payload is a NaN. -/
def isNaN : Payload → Bool
  | double x => x.isNaN
  | _ => false

/-- Every payload agrees with itself. -/
theorem agrees_refl (p : Payload) : p.Agrees p := by
  cases p <;> rfl

/-- Payloads with one canonical form are equal, or decimals. -/
theorem eq_or_decimal_of_canonical {p q : Payload} (h : p.canonical = q.canonical) :
    p = q ∨ ∃ a b, p = decimal a ∧ q = decimal b ∧ a.canonical = b.canonical := by
  cases p with
  | decimal a =>
      cases q with
      | decimal b => exact .inr ⟨a, b, rfl, rfl, Payload.decimal.inj h⟩
      | _ => cases h
  | _ =>
      cases q with
      | decimal b => cases h
      | _ => exact .inl h

/-- The canonical form of a payload has the text of the payload. -/
theorem text_canonical (p : Payload) : p.canonical.text = p.text := by
  cases p with
  | decimal d => exact congrArg String.ofList d.text_canonical
  | _ => rfl

/-- Canonical forms are canonical. -/
theorem canonical_canonical (p : Payload) : p.canonical.canonical = p.canonical := by
  cases p with
  | decimal d => exact congrArg decimal d.canonical_canonical
  | _ => rfl

/-- Decimals with one canonical form are one number. -/
theorem value_of_canonical {a b : Decimal} (h : a.canonical = b.canonical) :
    a.value = b.value := by
  rw [← a.value_canonical, h, b.value_canonical]

/-- Payloads with one canonical form agree. -/
theorem agrees_of_canonical {p q : Payload} (h : p.canonical = q.canonical) : p.Agrees q := by
  rcases eq_or_decimal_of_canonical h with rfl | ⟨a, b, rfl, rfl, hab⟩
  · exact agrees_refl p
  · exact value_of_canonical hab

/-- A payload other than NaN equals its canonical form. -/
theorem same_canonical {p : Payload} (h : p.isNaN = false) : p.same p.canonical = true := by
  cases p with
  | double x =>
      change (x.compare x == some .eq) = true
      rw [Binary64.compare_self h]
      rfl
  | decimal d =>
      have equal : d.compare d.canonical = .eq := by
        rw [Decimal.compare_eq_compare_value, Decimal.value_canonical]
        exact compare_eq_iff_eq.mpr rfl
      change (d.compare d.canonical == .eq) = true
      rw [equal]
      rfl
  | _ => simp [canonical, same]

end Payload

namespace TypedValue

/-- The value with its decimal in canonical form. -/
def canonical (v : TypedValue) : TypedValue := ⟨v.dataType, v.payload.canonical⟩

/-- Whether two values declare one type and hold payloads that agree. -/
def Agrees (v w : TypedValue) : Prop :=
  v.dataType = w.dataType ∧ v.payload.Agrees w.payload

/-- Whether a value is a NaN. -/
def isNaN (v : TypedValue) : Bool := v.payload.isNaN

variable {v w : TypedValue}

theorem dataType_of_canonical (h : v.canonical = w.canonical) : v.dataType = w.dataType :=
  congrArg (·.dataType) h

theorem payload_of_canonical (h : v.canonical = w.canonical) :
    v.payload.canonical = w.payload.canonical :=
  congrArg (·.payload) h

/-- Values with one canonical form agree. -/
theorem agrees_of_canonical (h : v.canonical = w.canonical) : v.Agrees w :=
  ⟨dataType_of_canonical h, Payload.agrees_of_canonical (payload_of_canonical h)⟩

/-- Values with one canonical form have the same text. -/
theorem text_of_canonical (h : v.canonical = w.canonical) : v.text = w.text := by
  unfold TypedValue.text
  rw [← Payload.text_canonical v.payload, payload_of_canonical h, Payload.text_canonical]

/-- Canonical forms are canonical. -/
theorem canonical_canonical (v : TypedValue) : v.canonical.canonical = v.canonical := by
  unfold canonical
  rw [Payload.canonical_canonical]

/-- Values with one canonical form are null alike. -/
theorem isNull_of_canonical (h : v.canonical = w.canonical) : v.isNull = w.isNull := by
  have type := dataType_of_canonical h
  unfold isNull
  rw [type]
  rcases Payload.eq_or_decimal_of_canonical (payload_of_canonical h) with same | ⟨a, b, ha, hb, _⟩
  · rw [same]
  · rw [ha, hb]
    rfl

/-- Values with one canonical form are well formed alike. -/
theorem wellFormed_of_canonical (h : v.canonical = w.canonical) :
    v.wellFormed = w.wellFormed := by
  have type := dataType_of_canonical h
  unfold wellFormed
  rw [type]
  rcases Payload.eq_or_decimal_of_canonical (payload_of_canonical h) with same | ⟨a, b, ha, hb, _⟩
  · rw [same]
  · rw [ha, hb]
    cases w.dataType <;> rfl

/-- A value other than NaN equals its canonical form. -/
theorem same_canonical (h : v.isNaN = false) : v.same v.canonical = true := by
  unfold same canonical
  rw [Payload.same_canonical h, beq_self_eq_true]
  rfl

end TypedValue

/-- Whether two faults are the same, up to the form of a decimal that they
show. -/
def MemberFault.Agrees : MemberFault → MemberFault → Prop
  | mismatched p, mismatched q => p.Agrees q
  | unconvertible p target, unconvertible q target' => p.Agrees q ∧ target = target'
  | fault, fault' => fault = fault'

/-- Whether two errors are the same, up to the form of a decimal that they
show. -/
def FilterError.Agrees : FilterError → FilterError → Prop
  | illegalMember t fault, illegalMember t' fault' => t = t' ∧ fault.Agrees fault'
  | e, e' => e = e'

theorem MemberFault.agrees_refl (fault : MemberFault) : fault.Agrees fault := by
  cases fault with
  | mismatched p => exact p.agrees_refl
  | unconvertible p target => exact ⟨p.agrees_refl, rfl⟩
  | _ => rfl

theorem FilterError.agrees_refl (e : FilterError) : e.Agrees e := by
  cases e with
  | illegalMember t fault => exact ⟨rfl, fault.agrees_refl⟩
  | _ => rfl

/-- Both results are values in a relation, or both are errors that agree. -/
abbrev Corresponds {α : Type} (R : α → α → Prop) :
    Except FilterError α → Except FilterError α → Prop :=
  Outcome.Related FilterError.Agrees R

end ScanFilter
