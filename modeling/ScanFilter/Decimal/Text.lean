import ScanFilter.Decimal
/-!
# Decimals as text

A decimal is written in positional notation unless that would need many zeros:
a number that starts more than five zeros after the point is written in
scientific notation, and one that would end in more than fifteen zeros is
written as an integer with an exponent.

Reading takes an integer part, an optional point, and an optional exponent.
Underscores may stand between digits.  A text can be wrong in several ways; the
exponent is looked at first, then the scale, then the digits.

* `text` — the text of a decimal;
* `ofText` — the decimal of a text, or what is wrong with it.
-/

namespace ScanFilter.Decimal

open Numeral (digits digitCount integer natural)

/-- The absolute value as an integer with an exponent: `12e+16`. -/
def withExponent (n : Numeral) : List Char :=
  digits n.coefficient ++ 'e' :: '+' :: integer n.exponent

/-- The text of a decimal; zero is written as such whatever its scale. -/
def text (d : Decimal) : List Char :=
  let n : Numeral := ⟨d.unscaled.natAbs, if d.unscaled = 0 then 0 else -d.scale.toInt⟩
  let magnitude :=
    if n.place < -5 then n.scientific 'E'
    else if 15 < n.exponent then withExponent n
    else n.positional
  if d.unscaled < 0 then '-' :: magnitude else magnitude

/-- What is wrong with the text of a decimal. -/
inductive Fault
  /-- Nothing follows the letter `e`. -/
  | noExponent
  /-- What follows the letter `e` is no integer. -/
  | malformedExponent
  /-- The exponent needs more than 128 bits. -/
  | exponentTooLarge
  /-- The exponent is negative and needs more than 128 bits. -/
  | exponentTooSmall
  /-- There is nothing in front of the exponent. -/
  | emptyText
  /-- The scale of `text` needs more than 64 bits. -/
  | scaleOverflow (text : String)
  /-- There is a sign or a point, and no digit. -/
  | noDigits
  /-- Something other than digits stands where digits should. -/
  | malformedDigits
  deriving DecidableEq

/-- The message of a fault. -/
def Fault.message : Fault → String
  | noExponent | noDigits => "cannot parse integer from empty string"
  | malformedExponent | malformedDigits => "invalid digit found in string"
  | exponentTooLarge => "number too large to fit in target type"
  | exponentTooSmall => "number too small to fit in target type"
  | emptyText => "Failed to parse empty string"
  | scaleOverflow text => s!"Exponent overflow when parsing '{text}'"

/-- One more digit of an exponent that must stay within 128 bits. -/
def exponentDigit (negative : Bool) (n : Int) (c : Char) : Except Fault Int :=
  if !c.isDigit then .error .malformedExponent
  else
    let digit : Int := natural [c]
    let n := if negative then 10 * n - digit else 10 * n + digit
    if Int.pow 2 127 ≤ n then .error .exponentTooLarge
    else if n < -Int.pow 2 127 then .error .exponentTooSmall
    else .ok n

/-- Reads an exponent: an optional sign and digits. -/
def exponentOfText (cs : List Char) : Except Fault Int :=
  if cs = [] then .error .noExponent
  else
    let (negative, magnitude) := Numeral.splitSign cs
    if magnitude = [] then .error .malformedExponent
    else magnitude.foldlM (exponentDigit negative) 0

/-- Reads digits between which underscores may stand. -/
def naturalOfText (cs : List Char) : Except Fault Nat :=
  match cs with
  | [] => .error .noDigits
  | '_' :: _ => .error .malformedDigits
  | cs =>
    if cs.all fun c => c.isDigit || c == '_' then
      .ok (natural (cs.filter (· != '_')))
    else .error .malformedDigits

/-- Reads digits with at most one plus sign in front. -/
def unsignedOfText : List Char → Except Fault Nat
  | '+' :: '+' :: _ => .error .malformedDigits
  | '+' :: rest => naturalOfText rest
  | cs => naturalOfText cs

/-- Reads the digits of a decimal with their sign. -/
def unscaledOfText : List Char → Except Fault Int
  | '-' :: '+' :: _ => .error .malformedDigits
  | '-' :: rest => (unsignedOfText rest).map fun n => -(n : Int)
  | cs => (unsignedOfText cs).map fun n => (n : Int)

/-- The digits of a numeral without its point, and how many of them stand after
the point.  Underscores do not count. -/
def splitPoint (cs : List Char) : List Char × Nat :=
  let fraction := (cs.dropWhile (· != '.')).drop 1
  (cs.takeWhile (· != '.') ++ fraction, (fraction.filter (· != '_')).length)

/-- Reads the decimal of a text. -/
def ofText (cs : List Char) : Except Fault Decimal := do
  let marks : Char → Bool := fun c => c != 'e' && c != 'E'
  let base := cs.takeWhile marks
  let exponent ← match cs.dropWhile marks with
    | [] => .ok 0
    | _ :: rest => exponentOfText rest
  if base = [] then throw .emptyText
  let (ds, places) := splitPoint base
  match Integer.long? (places - exponent) with
  | none => throw (.scaleOverflow (String.ofList cs))
  | some scale => return ⟨← unscaledOfText ds, scale⟩

end ScanFilter.Decimal
