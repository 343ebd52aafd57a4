import ScanFilter.Value.Reading
/-!
# Legal values

A value is **legal** when it is not null and its payload fits its declared type.
There are ten kinds of legal values, times being of two types.  Only a legal value is
ever read, and a reading of one depends on its payload alone.

* `legal_of_wellFormed` — every well-formed value other than null is of one of the
  ten kinds;
* `readAs_of_legal` — a legal value is read as what its payload converts to;
* `readAs_of_not_legal` — any other value is refused, by its declared type.
-/

namespace ScanFilter.TypedValue

/-- A value other than null whose payload fits its declared type. -/
inductive Legal : TypedValue → Prop
  | string (text : String) : Legal ⟨.string, .string text⟩
  | short (n : Int16) : Legal ⟨.short, .short n⟩
  | int (n : Int32) : Legal ⟨.int, .int n⟩
  | long (n : Int64) : Legal ⟨.long, .long n⟩
  | double (x : Binary64) : Legal ⟨.double, .double x⟩
  | decimal (d : Decimal) : Legal ⟨.decimal, .decimal d⟩
  | date (millis : Int64) : Legal ⟨.date, .time millis⟩
  | timestamp (millis : Int64) : Legal ⟨.timestamp, .time millis⟩
  | boolean (b : Bool) : Legal ⟨.boolean, .boolean b⟩
  | binary (bytes : List UInt8) : Legal ⟨.binary, .binary bytes⟩

variable {α : Type} {v : TypedValue}

theorem Legal.isNull (h : v.Legal) : v.isNull = false := by
  cases h <;> rfl

theorem Legal.wellFormed (h : v.Legal) : v.wellFormed = true := by
  cases h <;> rfl

/-- A well-formed value other than null is legal. -/
theorem legal_of_wellFormed (hn : v.isNull = false) (hw : v.wellFormed = true) :
    v.Legal := by
  obtain ⟨t, p⟩ := v
  cases p with
  | null =>
      -- A null payload fits every type, but makes the value null.
      rw [TypedValue.isNull, beq_self_eq_true, Bool.or_true] at hn
      cases hn
  | string text =>
      cases t with
      | string => exact .string text
      | _ => cases hw
  | short n =>
      cases t with
      | short => exact .short n
      | _ => cases hw
  | int n =>
      cases t with
      | int => exact .int n
      | _ => cases hw
  | long n =>
      cases t with
      | long => exact .long n
      | _ => cases hw
  | double x =>
      cases t with
      | double => exact .double x
      | _ => cases hw
  | decimal d =>
      cases t with
      | decimal => exact .decimal d
      | _ => cases hw
  | time millis =>
      cases t with
      | date => exact .date millis
      | timestamp => exact .timestamp millis
      | _ => cases hw
  | boolean b =>
      cases t with
      | boolean => exact .boolean b
      | _ => cases hw
  | binary bytes =>
      cases t with
      | binary => exact .binary bytes
      | _ => cases hw

/-- A legal value is read as what its payload converts to. -/
theorem readAs_of_legal (h : v.Legal) {target : Target} {convert? : Payload → Option α}
    {a : α} (hc : convert? v.payload = some a) : v.readAs target convert? = .ok a :=
  readAs_eq_ok_iff.mpr ⟨h.isNull, h.wellFormed, hc⟩

/-- A legal value whose payload does not convert is refused. -/
theorem readAs_of_unconvertible (h : v.Legal) {target : Target}
    {convert? : Payload → Option α} (hc : convert? v.payload = none) :
    v.readAs target convert?
      = .error (.illegalMember v.dataType (.unconvertible v.payload target)) := by
  unfold readAs
  rw [h.isNull, h.wellFormed, hc, if_neg (by decide), if_neg (by decide)]

/-- A value that is not legal is refused, by its declared type. -/
theorem readAs_of_not_legal (h : ¬ v.Legal) (target : Target)
    (convert? : Payload → Option α) :
    ∃ fault, v.readAs target convert? = .error (.illegalMember v.dataType fault) := by
  cases hr : v.readAs target convert? with
  | ok a =>
      obtain ⟨hn, hw, _⟩ := readAs_eq_ok_iff.mp hr
      exact absurd (legal_of_wellFormed hn hw) h
  | error e =>
      obtain ⟨fault, rfl⟩ := readAs_error hr
      exact ⟨fault, rfl⟩

end ScanFilter.TypedValue
