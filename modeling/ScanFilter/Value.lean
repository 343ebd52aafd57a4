import ScanFilter.Binary64
import ScanFilter.DataType
import ScanFilter.Decimal
/-!
# Column values and rows

A column value declares a data type and holds a payload.  Whoever decodes a row
may hand over a payload that does not fit the declared type; such a pair is
representable, and it is refused when it is read, not when it is built.

A row is the list of its column values.  A column past its end has no value and
counts as null.

* `wellFormed` — whether a payload fits the declared type;
* `Row.isNull` — whether a column is null or missing.
-/

namespace ScanFilter

/-- What a column value holds. -/
inductive Payload
  | null
  | string (text : String)
  | short (n : Int16)
  | int (n : Int32)
  | long (n : Int64)
  | double (x : Binary64)
  | decimal (d : Decimal)
  /-- Milliseconds since the epoch. -/
  | time (millis : Int64)
  | boolean (b : Bool)
  | binary (bytes : List UInt8)
  deriving DecidableEq

namespace Payload

/-- Whether a payload is legal for a declared type.  No payload at all is legal
for every type. -/
def fits : Payload → DataType → Bool
  | null, _ => true
  | string _, .string => true
  | short _, .short => true
  | int _, .int => true
  | long _, .long => true
  | double _, .double => true
  | decimal _, .decimal => true
  | time _, .date => true
  | time _, .timestamp => true
  | boolean _, .boolean => true
  | binary _, .binary => true
  | _, _ => false

/-- Whether two payloads are of one kind and equal: decimals as numbers, doubles
by the rules of arithmetic (a NaN equals nothing), all else literally. -/
def same : Payload → Payload → Bool
  | double x, double y => x.compare y == some .eq
  | decimal a, decimal b => a.compare b == .eq
  | a, b => a == b

end Payload

/-- A column value: a declared type and a payload. -/
structure TypedValue where
  dataType : DataType
  payload : Payload
  deriving DecidableEq

namespace TypedValue

/-- The null value of no particular type. -/
def null : TypedValue := ⟨.null, .null⟩

/-- A text. -/
def string (text : String) : TypedValue := ⟨.string, .string text⟩

/-- A 16-bit integer. -/
def short (n : Int16) : TypedValue := ⟨.short, .short n⟩

/-- A 32-bit integer. -/
def int (n : Int32) : TypedValue := ⟨.int, .int n⟩

/-- A 64-bit integer. -/
def long (n : Int64) : TypedValue := ⟨.long, .long n⟩

/-- A double. -/
def double (x : Binary64) : TypedValue := ⟨.double, .double x⟩

/-- A decimal. -/
def decimal (d : Decimal) : TypedValue := ⟨.decimal, .decimal d⟩

/-- A date, in milliseconds since the epoch. -/
def date (millis : Int64) : TypedValue := ⟨.date, .time millis⟩

/-- A point in time, in milliseconds since the epoch. -/
def timestamp (millis : Int64) : TypedValue := ⟨.timestamp, .time millis⟩

/-- A truth value. -/
def boolean (b : Bool) : TypedValue := ⟨.boolean, .boolean b⟩

/-- A byte string. -/
def binary (bytes : List UInt8) : TypedValue := ⟨.binary, .binary bytes⟩

/-- Whether a value is null: by its declared type or by its payload. -/
def isNull (v : TypedValue) : Bool := v.dataType == .null || v.payload == .null

/-- Whether the payload is legal for the declared type. -/
def wellFormed (v : TypedValue) : Bool := v.payload.fits v.dataType

/-- Whether two values declare one type and hold the same payload. -/
def same (v w : TypedValue) : Bool :=
  v.dataType == w.dataType && v.payload.same w.payload

end TypedValue

/-- The column values of a row. -/
abbrev Row := List TypedValue

namespace Row

/-- The value of a column, if the row has one. -/
def get? (row : Row) (index : Nat) : Option TypedValue := row[index]?

/-- Whether a column is null or missing. -/
def isNull (row : Row) (index : Nat) : Bool :=
  match row.get? index with
  | some v => v.isNull
  | none => true

end Row

end ScanFilter
