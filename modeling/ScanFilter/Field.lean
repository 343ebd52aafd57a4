import ScanFilter.Bytes
import ScanFilter.Comparison
import ScanFilter.Storage.Reader
/-!
# Fields of files

A field is a number of fixed width in a file, the most significant byte first.
It is read through a reader and compared with a literal like any other value; a
literal is read from text by the rules for text values.

* `readField`, `compareField` — a field that is read, and compared with a literal;
* `parseLiteral` — the literal of a text.
-/

namespace ScanFilter

/-- The kinds of fields. -/
inductive FieldKind
  | int | long | double
  deriving DecidableEq

namespace FieldKind

/-- Every kind of field. -/
def all : List FieldKind := [int, long, double]

/-- How many bytes a field takes. -/
def width : FieldKind → Nat
  | int => 4
  | long => 8
  | double => 8

/-- The type of a field's value. -/
def dataType : FieldKind → DataType
  | int => .int
  | long => .long
  | double => .double

/-- The kind of field of a given type name. -/
def ofName? (text : String) : Option FieldKind := all.find? (·.dataType.name == text)

/-- Reads a literal for a field from text. -/
def parseLiteral (kind : FieldKind) (text : String) : Except FilterError TypedValue :=
  match kind with
  | int => (TypedValue.string text).asInt.map TypedValue.int
  | long => (TypedValue.string text).asLong.map TypedValue.long
  | double => (TypedValue.string text).asDouble.map TypedValue.double

end FieldKind

/-- What went wrong in a probe: the read, or the comparison. -/
inductive ProbeError
  | storage (error : StorageError)
  | filter (error : FilterError)
  deriving DecidableEq

/-- The message of an error. -/
def ProbeError.message : ProbeError → String
  | storage error => error.message
  | filter error => error.message

namespace Reader

variable {σ : Type} [FileStore σ]

/-- Reads a 32-bit integer. -/
def readInt (r : Reader σ) (path : String) (offset : Option Nat) :
    Except StorageError Int32 × Reader σ :=
  let (result, r) := r.fetch path offset 4
  (result.map fun bytes => .ofNat (Bytes.ofBigEndian bytes), r)

/-- Reads a 64-bit integer. -/
def readLong (r : Reader σ) (path : String) (offset : Option Nat) :
    Except StorageError Int64 × Reader σ :=
  let (result, r) := r.fetch path offset 8
  (result.map fun bytes => .ofNat (Bytes.ofBigEndian bytes), r)

/-- Reads a double. -/
def readDouble (r : Reader σ) (path : String) (offset : Option Nat) :
    Except StorageError Binary64 × Reader σ :=
  let (result, r) := r.fetch path offset 8
  (result.map fun bytes => ⟨.ofNat (Bytes.ofBigEndian bytes)⟩, r)

/-- Reads a field of some kind. -/
def readField (r : Reader σ) (path : String) (offset : Option Nat) :
    FieldKind → Except StorageError TypedValue × Reader σ
  | .int =>
    let (result, r) := r.readInt path offset
    (result.map TypedValue.int, r)
  | .long =>
    let (result, r) := r.readLong path offset
    (result.map TypedValue.long, r)
  | .double =>
    let (result, r) := r.readDouble path offset
    (result.map TypedValue.double, r)

/-- Reads fields one after the other into a row, up to the first that fails. -/
def readFields (r : Reader σ) (path : String) :
    List (FieldKind × Option Nat) → Except StorageError Row × Reader σ
  | [] => (.ok [], r)
  | (kind, offset) :: fields =>
    match r.readField path offset kind with
    | (.error e, r) => (.error e, r)
    | (.ok v, r) =>
      let (rest, r) := r.readFields path fields
      (rest.map (v :: ·), r)

/-- Reads a field and compares it with a literal. -/
def compareField (r : Reader σ) (path : String) (offset : Option Nat)
    (kind : FieldKind) (op : ComparisonOperator) (literal : TypedValue) :
    Except ProbeError Bool × Reader σ :=
  match r.readField path offset kind with
  | (.error e, r) => (.error (.storage e), r)
  | (.ok field, r) =>
    (((compareTyped op field literal).bind TypedValue.asBoolean).mapError .filter, r)

end Reader

end ScanFilter
