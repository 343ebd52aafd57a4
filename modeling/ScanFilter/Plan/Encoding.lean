import ScanFilter.Bytes
import ScanFilter.Decimal.Text
import ScanFilter.Plan.Tag
import ScanFilter.Text.Utf8
/-!
# Plan bytes of an expression

An expression travels to the workers of a scan as bytes.  Words have a fixed
width and the least significant byte first: four bytes for a choice among
variants, eight for a length.  Texts, lists and byte strings carry their length
in front; a decimal travels as its text.

* `encode` — the bytes of an expression;
* `length_choice`, `length_lengthWord` — the widths of choices and lengths.
-/

namespace ScanFilter.Plan

open Bytes (littleEndian)

/-- A choice among variants: the place of the chosen one. -/
def choice {α : Type} [DecidableEq α] (all : List α) (chosen : α) : List UInt8 :=
  littleEndian 4 (all.idxOf chosen)

/-- A length. -/
def lengthWord (n : Nat) : List UInt8 := littleEndian 8 n

/-- A truth value. -/
def truth (b : Bool) : List UInt8 := [if b then 1 else 0]

/-- A byte string behind its length. -/
def blob (bytes : List UInt8) : List UInt8 := lengthWord bytes.length ++ bytes

/-- A text behind the length of its bytes. -/
def text (s : String) : List UInt8 := blob (Utf8.encode s)

/-- The content of a payload, its variant apart. -/
def payloadContent : Payload → List UInt8
  | .null => []
  | .string s => text s
  | .short n => littleEndian 2 n.toUInt16.toNat
  | .int n => littleEndian 4 n.toUInt32.toNat
  | .long n => littleEndian 8 n.toUInt64.toNat
  | .double x => littleEndian 8 x.bits.toNat
  | .decimal d => text (String.ofList d.text)
  | .time millis => littleEndian 8 millis.toUInt64.toNat
  | .boolean b => truth b
  | .binary bytes => blob bytes

/-- A value: its declared type, the variant of its payload, and the content. -/
def typedValue (v : TypedValue) : List UInt8 :=
  choice DataType.all v.dataType ++ choice PayloadTag.all (.ofPayload v.payload)
    ++ payloadContent v.payload

/-- An optional text: a mark, and the text when there is one. -/
def optionalText : Option String → List UInt8
  | none => [0]
  | some s => 1 :: text s

/-- A reference to a column. -/
def column (c : Column) : List UInt8 :=
  littleEndian 8 c.index.toNat ++ optionalText c.label

mutual

/-- The bytes of an expression. -/
def encode : Expr → List UInt8
  | .literal v => choice ExprTag.all .literal ++ typedValue v
  | .column c => choice ExprTag.all .column ++ column c
  | .comparison op a b =>
    choice ExprTag.all .comparison ++ choice ComparisonOperator.all op
      ++ encode a ++ encode b
  | .logical op a b =>
    choice ExprTag.all .logical ++ choice LogicalOperator.all op ++ encode a ++ encode b
  | .unary op a => choice ExprTag.all .unary ++ choice UnaryOperator.all op ++ encode a
  | .membership a ms negated =>
    choice ExprTag.all .membership ++ encode a ++ lengthWord ms.length
      ++ encodeMembers ms ++ truth negated

/-- The bytes of a list of expressions, one after the other. -/
def encodeMembers : List Expr → List UInt8
  | [] => []
  | a :: as => encode a ++ encodeMembers as

end

/-- A choice takes four bytes. -/
theorem length_choice {α : Type} [DecidableEq α] (all : List α) (chosen : α) :
    (choice all chosen).length = 4 :=
  Bytes.length_littleEndian ..

/-- A length takes eight bytes. -/
theorem length_lengthWord (n : Nat) : (lengthWord n).length = 8 :=
  Bytes.length_littleEndian ..

end ScanFilter.Plan
