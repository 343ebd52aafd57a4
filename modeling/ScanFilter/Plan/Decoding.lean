import ScanFilter.Bytes
import ScanFilter.FilterError
import ScanFilter.Plan.Tag
/-!
# Reading plan bytes

A decoder takes what it needs from the front of the bytes and leaves the rest.
It accepts no variant, truth value, mark or text other than the encoder writes;
decimals may be spelled in any way that reads as one.  Lengths are only
believed as far as there are bytes, and every level of a tree takes bytes of
its own, so a tree cannot be deeper than the bytes are long.

* `decode` — the expression at the front of the bytes; what follows it is
  ignored;
* `take_append` — a field is taken from the front and the rest is left.
-/

namespace ScanFilter.Plan

/-- Takes a value from the front of the bytes, or finds a fault. -/
abbrev Decoder := StateT (List UInt8) (Except Fault)

namespace Decoder

open Bytes (ofLittleEndian)

/-- The next `n` bytes. -/
def take (n : Nat) (fault : Fault) : Decoder (List UInt8) := fun bytes =>
  if (bytes.take n).length = n then .ok (bytes.take n, bytes.drop n) else .error fault

/-- A word of fixed width. -/
def word (width : Nat) : Decoder Nat := do
  return ofLittleEndian (← take width .missingBytes)

/-- A choice among variants. -/
def choice {α : Type} (all : List α) : Decoder α := do
  let found ← word 4
  match all[found]? with
  | some chosen => return chosen
  | none => throw (.unknownVariant found all.length)

/-- A truth value. -/
def truth : Decoder Bool := do
  match ← word 1 with
  | 0 => return false
  | 1 => return true
  | found => throw (.malformedTruth found)

/-- A byte string behind its length. -/
def blob : Decoder (List UInt8) := do
  take (← word 8) .missingBytes

/-- A text behind the length of its bytes. -/
def text : Decoder String := do
  match Utf8.decode (← take (← word 8) .missingText) with
  | .ok s => return s
  | .error fault => throw (.malformedText fault)

/-- A decimal, spelled as a text. -/
def decimal : Decoder Decimal := do
  match Decimal.ofText (← text).toList with
  | .ok d => return d
  | .error fault => throw (.malformedDecimal fault)

/-- The content of a payload of a given variant. -/
def payloadContent : PayloadTag → Decoder Payload
  | .null => return .null
  | .string => return .string (← text)
  | .short => return .short (.ofNat (← word 2))
  | .int => return .int (.ofNat (← word 4))
  | .long => return .long (.ofNat (← word 8))
  | .double => return .double ⟨.ofNat (← word 8)⟩
  | .decimal => return .decimal (← decimal)
  | .time => return .time (.ofNat (← word 8))
  | .boolean => return .boolean (← truth)
  | .binary => return .binary (← blob)

/-- A value. -/
def typedValue : Decoder TypedValue := do
  let dataType ← choice DataType.all
  let tag ← choice PayloadTag.all
  return ⟨dataType, ← payloadContent tag⟩

/-- An optional text. -/
def optionalText : Decoder (Option String) := do
  match ← word 1 with
  | 0 => return none
  | 1 => return some (← text)
  | found => throw (.malformedOption found)

/-- A reference to a column. -/
def column : Decoder Column := do
  let index ← word 8
  return ⟨.ofNat index, ← optionalText⟩

/-- So many values, one after the other. -/
def times {α : Type} (d : Decoder α) : Nat → Decoder (List α)
  | 0 => return []
  | n + 1 => do
    let a ← d
    return a :: (← times d n)

/-- An expression of at most so many levels. -/
def expr : Nat → Decoder Expr
  | 0 => throw .missingBytes
  | levels + 1 => do
    match ← choice ExprTag.all with
    | .literal => return .literal (← typedValue)
    | .column => return .column (← column)
    | .comparison =>
      let op ← choice ComparisonOperator.all
      let left ← expr levels
      return .comparison op left (← expr levels)
    | .logical =>
      let op ← choice LogicalOperator.all
      let left ← expr levels
      return .logical op left (← expr levels)
    | .unary =>
      let op ← choice UnaryOperator.all
      return .unary op (← expr levels)
    | .membership =>
      let probe ← expr levels
      let members ← times (expr levels) (← word 8)
      return .membership probe members (← truth)

/-- A field is taken from the front and the rest is left. -/
theorem take_append (front rest : List UInt8) (fault : Fault) :
    take front.length fault (front ++ rest) = .ok (front, rest) := by
  simp [take]

end Decoder

/-- The expression at the front of plan bytes; what follows it is ignored. -/
def decode (bytes : List UInt8) : Except FilterError Expr :=
  match Decoder.expr bytes.length bytes with
  | .ok (e, _) => .ok e
  | .error fault => .error (.codec fault)

end ScanFilter.Plan
