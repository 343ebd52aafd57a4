/-!
# Data types of columns

Every column value declares one of eleven data types.  The types are ranked:
when the two sides of a comparison declare different types, the one of higher
precedence — the **pivot** — decides how both sides are read.

* `pivot_comm` — the pivot does not depend on the side a type came from.
-/

namespace ScanFilter

/-- The declared type of a column value. -/
inductive DataType
  | null | boolean | binary | short | int | long | double | decimal
  | date | timestamp | string
  deriving DecidableEq

namespace DataType

/-- Every data type, from the lowest precedence to the highest. -/
def all : List DataType :=
  [null, boolean, binary, short, int, long, double, decimal, date, timestamp,
    string]

/-- The rank of a type when two types meet in a comparison. -/
def precedence : DataType → Nat
  | null => 0
  | boolean => 1
  | binary => 2
  | short => 3
  | int => 4
  | long => 5
  | double => 6
  | decimal => 7
  | date => 8
  | timestamp => 9
  | string => 10

/-- The type that decides how both sides of a comparison are read: the one of
higher precedence. -/
def pivot (left right : DataType) : DataType :=
  if right.precedence ≤ left.precedence then left else right

/-- The name of a type in messages. -/
def name : DataType → String
  | null => "NULL"
  | boolean => "BOOLEAN"
  | binary => "BINARY"
  | short => "SHORT"
  | int => "INT"
  | long => "LONG"
  | double => "DOUBLE"
  | decimal => "DECIMAL"
  | date => "DATE"
  | timestamp => "TIMESTAMP"
  | string => "STRING"

/-- The type of a given name. -/
def ofName? (text : String) : Option DataType :=
  all.find? (·.name == text)

/-- Every data type is listed. -/
theorem mem_all (t : DataType) : t ∈ all := by cases t <;> decide

/-- The pivot does not depend on the side a type came from. -/
theorem pivot_comm (a b : DataType) : pivot a b = pivot b a := by
  cases a <;> cases b <;> rfl

/-- The pivot ranks at least as high as the left type. -/
theorem precedence_le_pivot_left (a b : DataType) :
    a.precedence ≤ (pivot a b).precedence := by
  unfold pivot
  split <;> omega

/-- The pivot ranks at least as high as the right type. -/
theorem precedence_le_pivot_right (a b : DataType) :
    b.precedence ≤ (pivot a b).precedence := by
  rw [pivot_comm]
  exact precedence_le_pivot_left b a

/-- The pivot is one of the two types. -/
theorem pivot_eq_or (a b : DataType) : pivot a b = a ∨ pivot a b = b := by
  unfold pivot
  split
  · exact .inl rfl
  · exact .inr rfl

end DataType

end ScanFilter
