/-!
# Decimal numerals

A numeral is a decimal `coefficient · 10 ^ exponent`.  This module holds the
digits of natural numbers, the sign in front of an integer, and the two ways to
write a numeral: in positional notation and in scientific notation.

* `natural_digits` — reading the digits of a number gives the number back;
* `digits_ne_nil` — a number has at least one digit;
* `readInteger?` — reads a sign and at least one digit, nothing else;
* `ofText?` — reads digits with at most one point and an optional exponent.
-/

namespace ScanFilter

/-- The decimal `coefficient · 10 ^ exponent`. -/
structure Numeral where
  coefficient : Nat
  exponent : Int
  deriving DecidableEq

namespace Numeral

/-- The decimal digits of a number, the most significant first. -/
def digits (n : Nat) : List Char := Nat.toDigits 10 n

/-- How many decimal digits a number has; zero has one. -/
def digitCount (n : Nat) : Nat := (digits n).length

/-- The number that a row of decimal digits denotes. -/
def natural (cs : List Char) : Nat := Nat.ofDigitChars 10 cs 0

/-- The text of an integer: a minus sign when it is negative, and its digits. -/
def integer (n : Int) : List Char :=
  if n < 0 then '-' :: digits n.natAbs else digits n.natAbs

/-- A text without its sign, and whether the sign was a minus. -/
def splitSign : List Char → Bool × List Char
  | '+' :: rest => (false, rest)
  | '-' :: rest => (true, rest)
  | cs => (false, cs)

/-- A magnitude with a sign in front. -/
def signed (negative : Bool) (magnitude : Nat) : Int :=
  if negative then -(magnitude : Int) else magnitude

/-- Reads an optional sign and at least one ASCII digit, and nothing else. -/
def readInteger? (cs : List Char) : Option Int :=
  let (negative, magnitude) := splitSign cs
  if magnitude ≠ [] ∧ magnitude.all Char.isDigit then
    some (signed negative (natural magnitude))
  else
    none

/-- Positional notation: zeros follow the digits when the exponent is not
negative, and otherwise a point splits them, with at least one digit in front
of it. -/
def positional (n : Numeral) : List Char :=
  let ds := digits n.coefficient
  let places := (-n.exponent).toNat
  if 0 ≤ n.exponent then
    ds ++ List.replicate n.exponent.toNat '0'
  else if places < ds.length then
    ds.take (ds.length - places) ++ '.' :: ds.drop (ds.length - places)
  else
    '0' :: '.' :: List.replicate (places - ds.length) '0' ++ ds

/-- Scientific notation: one digit, a point and the other digits when there are
any, a mark, and the exponent. -/
def scientific (mark : Char) (n : Numeral) : List Char :=
  let ds := digits n.coefficient
  let fraction := ds.drop 1
  ds.take 1 ++ (if fraction = [] then [] else '.' :: fraction)
    ++ mark :: integer (n.exponent + fraction.length)

/-- The place `p` of the first digit, one place in front of the point being
place 1: a numeral other than zero lies in `10 ^ (p - 1) … 10 ^ p`. -/
def place (n : Numeral) : Int := digitCount n.coefficient + n.exponent

/-- The same decimal without zeros at the end of its coefficient. -/
def trim (n : Numeral) : Numeral :=
  if n.coefficient ≠ 0 ∧ n.coefficient % 10 = 0 then
    trim ⟨n.coefficient / 10, n.exponent + 1⟩
  else n
  termination_by n.coefficient
  decreasing_by omega

/-- The exponent at the end of a numeral: nothing at all, or a letter `e` and an
integer. -/
def exponentOfText? : List Char → Option Int
  | [] => some 0
  | c :: rest => if c = 'e' ∨ c = 'E' then readInteger? rest else none

/-- Reads digits with at most one point, at least one digit, and an optional
exponent. -/
def ofText? (cs : List Char) : Option Numeral :=
  let whole := cs.takeWhile Char.isDigit
  let rest := cs.dropWhile Char.isDigit
  let (fraction, tail) := match rest with
    | '.' :: after => (after.takeWhile Char.isDigit, after.dropWhile Char.isDigit)
    | _ => ([], rest)
  if whole ++ fraction = [] then none
  else
    (exponentOfText? tail).map fun e =>
      ⟨natural (whole ++ fraction), e - fraction.length⟩

/-- Reading the digits of a number gives the number back. -/
theorem natural_digits (n : Nat) : natural (digits n) = n :=
  Nat.ofDigitChars_toDigits (by decide) (by decide)

/-- A number has at least one digit. -/
theorem digits_ne_nil (n : Nat) : digits n ≠ [] := Nat.toDigits_ne_nil

end Numeral

end ScanFilter
