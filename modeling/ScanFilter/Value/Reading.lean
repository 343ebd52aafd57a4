import ScanFilter.Decimal.Nearest
import ScanFilter.FilterError
import ScanFilter.Text.Blank
/-!
# Reading a value as a type

A value can be read as one of eight targets.  Every reading refuses a null
first, then a payload that does not fit the declared type, and only then asks
whether the payload converts.  What converts is told by one partial function for
each target; texts are trimmed before they are read as numbers, and not before
they are read as truth values.

* `readAs_eq_ok_iff` — a reading succeeds exactly on a well-formed value other
  than null whose payload converts;
* `readAs_error` — every failure names the declared type.
-/

namespace ScanFilter

namespace Payload

/-- The integer that a text denotes, white space around it apart. -/
def integerOfText? (s : String) : Option Int :=
  Numeral.readInteger? (Blank.trim s.toList)

/-- The text of anything but bytes. -/
def asString? : Payload → Option String
  | null | binary _ => none
  | payload => some payload.text

/-- An integer type or a text, as a 16-bit integer in range. -/
def asShort? : Payload → Option Int16
  | short n => some n
  | int n => Integer.short? n.toInt
  | long n => Integer.short? n.toInt
  | string s => (integerOfText? s).bind Integer.short?
  | _ => none

/-- An integer type or a text, as a 32-bit integer in range. -/
def asInt? : Payload → Option Int32
  | short n => some n.toInt32
  | int n => some n
  | long n => Integer.int? n.toInt
  | string s => (integerOfText? s).bind Integer.int?
  | _ => none

/-- An integer type, a time or a text, as a 64-bit integer in range. -/
def asLong? : Payload → Option Int64
  | short n => some n.toInt64
  | int n => some n.toInt64
  | long n => some n
  | time millis => some millis
  | string s => (integerOfText? s).bind Integer.long?
  | _ => none

/-- A number or a text, as the nearest double. -/
def asDouble? : Payload → Option Binary64
  | short n => some (.ofInt n.toInt)
  | int n => some (.ofInt n.toInt)
  | long n => some (.ofInt n.toInt)
  | double x => some x
  | decimal d => some d.toBinary64
  | string s => Binary64.ofText? (Blank.trim s.toList)
  | _ => none

/-- A finite number or a text, as a decimal. -/
def asDecimal? : Payload → Option Decimal
  | short n => some (.ofInt n.toInt)
  | int n => some (.ofInt n.toInt)
  | long n => some (.ofInt n.toInt)
  | double x => Decimal.ofBinary64? x
  | decimal d => some d
  | string s => (Decimal.ofText (Blank.trim s.toList)).toOption
  | _ => none

/-- A time, an integer type or a text, as milliseconds since the epoch. -/
def asTime? : Payload → Option Int64
  | time millis => some millis
  | long n => some n
  | short n => some n.toInt64
  | int n => some n.toInt64
  | string s => (integerOfText? s).bind Integer.long?
  | _ => none

/-- A truth value, or its name in any case. -/
def asBoolean? : Payload → Option Bool
  | boolean b => some b
  | string s =>
    if LetterCase.equalIgnoringCase s.toList ['t', 'r', 'u', 'e'] then some true
    else if LetterCase.equalIgnoringCase s.toList ['f', 'a', 'l', 's', 'e'] then some false
    else none
  | _ => none

end Payload

namespace TypedValue

variable {α : Type}

/-- Reads a value as a target: refuses a null, then a payload that does not fit
the declared type, then one that does not convert. -/
def readAs (target : Target) (convert? : Payload → Option α) (v : TypedValue) :
    Except FilterError α :=
  if v.isNull then .error (.illegalMember v.dataType (.null target))
  else if !v.wellFormed then
    .error (.illegalMember v.dataType (.mismatched v.payload))
  else
    match convert? v.payload with
    | some a => .ok a
    | none => .error (.illegalMember v.dataType (.unconvertible v.payload target))

/-- Reads a value as a text. -/
def asString (v : TypedValue) : Except FilterError String := v.readAs .string Payload.asString?

/-- Reads a value as a 16-bit integer. -/
def asShort (v : TypedValue) : Except FilterError Int16 := v.readAs .short Payload.asShort?

/-- Reads a value as a 32-bit integer. -/
def asInt (v : TypedValue) : Except FilterError Int32 := v.readAs .int Payload.asInt?

/-- Reads a value as a 64-bit integer. -/
def asLong (v : TypedValue) : Except FilterError Int64 := v.readAs .long Payload.asLong?

/-- Reads a value as a double. -/
def asDouble (v : TypedValue) : Except FilterError Binary64 :=
  v.readAs .double Payload.asDouble?

/-- Reads a value as a decimal. -/
def asDecimal (v : TypedValue) : Except FilterError Decimal :=
  v.readAs .decimal Payload.asDecimal?

/-- Reads a value as milliseconds since the epoch. -/
def asTime (v : TypedValue) : Except FilterError Int64 := v.readAs .time Payload.asTime?

/-- Reads a value as a truth value. -/
def asBoolean (v : TypedValue) : Except FilterError Bool :=
  v.readAs .boolean Payload.asBoolean?

/-- A reading succeeds exactly on a well-formed value other than null whose
payload converts. -/
theorem readAs_eq_ok_iff {target : Target} {convert? : Payload → Option α}
    {v : TypedValue} {a : α} :
    v.readAs target convert? = .ok a ↔
      v.isNull = false ∧ v.wellFormed = true ∧ convert? v.payload = some a := by
  unfold readAs
  split
  · simp [*]
  · split
    · simp_all
    · split <;> simp_all

/-- Every failure of a reading names the declared type. -/
theorem readAs_error {target : Target} {convert? : Payload → Option α}
    {v : TypedValue} {e : FilterError} (h : v.readAs target convert? = .error e) :
    ∃ fault, e = .illegalMember v.dataType fault := by
  unfold readAs at h
  split at h
  · cases h
    exact ⟨_, rfl⟩
  · split at h
    · cases h
      exact ⟨_, rfl⟩
    · split at h
      · cases h
      · cases h
        exact ⟨_, rfl⟩

/-- A text reads as itself. -/
theorem asString_string (text : String) : (string text).asString = .ok text := rfl

/-- A double reads as itself. -/
theorem asDouble_double (x : Binary64) : (double x).asDouble = .ok x := rfl

/-- A truth value reads as itself. -/
theorem asBoolean_boolean (b : Bool) : (boolean b).asBoolean = .ok b := by
  cases b <;> rfl

end TypedValue

end ScanFilter
