import ScanFilter.Binary64.Text
import ScanFilter.Decimal.Text
import ScanFilter.Integer
import ScanFilter.Text.Quoted
import ScanFilter.Value
/-!
# Values as text

The plain text of a value is its payload alone.  The marked text, which messages
show, also tells the kind of the payload, and it spells a decimal by its sign,
its scale and the digits of its integer in base `2 ^ 64`.  Bytes are written as two
lower-case hexadecimal digits each.

* `Hex.text`, `Hex.spaced` — bytes without separators, and with spaces between them;
* `text` — plain text of a value; `markedText` — marked text of a payload.
-/

namespace ScanFilter

namespace Hex

/-- The two digits of a byte. -/
def pair (b : UInt8) : List Char :=
  [Nat.digitChar (b.toNat / 16), Nat.digitChar (b.toNat % 16)]

/-- The digits of every byte in turn, without separators. -/
def text (bytes : List UInt8) : String := String.ofList (bytes.flatMap pair)

/-- The digits of every byte, with one space between two bytes. -/
def spaced (bytes : List UInt8) : String :=
  " ".intercalate (bytes.map fun b => String.ofList (pair b))

end Hex

/-- The text of an integer. -/
def integerText (n : Int) : String := String.ofList (Numeral.integer n)

/-- Numbers in brackets with a comma and a space between two of them. -/
def numberListText (ns : List Nat) : String :=
  "[" ++ ", ".intercalate (ns.map fun (n : Nat) => integerText n) ++ "]"

/-- The text of a truth value. -/
def truthText (b : Bool) : String := if b then "true" else "false"

namespace Decimal

/-- The name of a decimal's sign. -/
def signName (d : Decimal) : String :=
  if d.unscaled < 0 then "Minus" else if d.unscaled = 0 then "NoSign" else "Plus"

/-- A decimal by its parts. -/
def partsText (d : Decimal) : String :=
  "BigDecimal(sign=" ++ d.signName ++ ", scale=" ++ integerText d.scale.toInt
    ++ ", digits=" ++ numberListText (limbs d.unscaled.natAbs) ++ ")"

end Decimal

namespace Payload

/-- The plain text of a payload; bytes are written in hexadecimal. -/
def text : Payload → String
  | null => "null"
  | string s => s
  | short n => integerText n.toInt
  | int n => integerText n.toInt
  | long n => integerText n.toInt
  | double x => String.ofList x.text
  | decimal d => String.ofList d.text
  | time millis => integerText millis.toInt
  | boolean b => truthText b
  | binary bytes => Hex.text bytes

/-- A text in parentheses after the name of a kind. -/
def marked (kind content : String) : String := kind ++ "(" ++ content ++ ")"

/-- The marked text of a payload. -/
def markedText : Payload → String
  | null => "Null"
  | string s => marked "String" (Quoted.quote s)
  | short n => marked "Short" (integerText n.toInt)
  | int n => marked "Int" (integerText n.toInt)
  | long n => marked "Long" (integerText n.toInt)
  | double x => marked "Double" (String.ofList x.markedText)
  | decimal d => marked "Decimal" d.partsText
  | time millis => marked "Time" (integerText millis.toInt)
  | boolean b => marked "Boolean" (truthText b)
  | binary bytes => marked "Binary" (numberListText (bytes.map UInt8.toNat))

end Payload

/-- The plain text of a value: that of its payload, whatever its type. -/
def TypedValue.text (v : TypedValue) : String := v.payload.text

end ScanFilter
