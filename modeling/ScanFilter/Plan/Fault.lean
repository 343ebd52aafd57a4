import ScanFilter.Decimal.Text
import ScanFilter.Text.Utf8
/-!
# Faults in plan bytes

What a decoder of plan bytes can object to, and its words for it.  The bytes
that are missing and the bytes that are wrong are told apart.

* `Fault.message` — the words for a fault.
-/

namespace ScanFilter.Plan

/-- Why plan bytes hold no expression. -/
inductive Fault
  /-- The bytes end inside a field of fixed width. -/
  | missingBytes
  /-- The bytes end inside a text. -/
  | missingText
  /-- A choice among `count` variants says `found`. -/
  | unknownVariant (found count : Nat)
  /-- A truth value is neither 0 nor 1. -/
  | malformedTruth (found : Nat)
  /-- The mark of an optional field is neither 0 nor 1. -/
  | malformedOption (found : Nat)
  /-- The bytes of a text are not UTF-8. -/
  | malformedText (fault : Utf8.Fault)
  /-- The text of a decimal is none. -/
  | malformedDecimal (fault : Decimal.Fault)
  deriving DecidableEq

/-- The message of a fault. -/
def Fault.message : Fault → String
  | missingBytes => "io error: unexpected end of file"
  | missingText => "io error: "
  | unknownVariant found count =>
    s!"invalid value: integer `{found}`, expected variant index 0 <= i < {count}"
  | malformedTruth found =>
    s!"invalid u8 while decoding bool, expected 0 or 1, found {found}"
  | malformedOption found => s!"tag for enum is not valid, found {found}"
  | malformedText fault => "string is not valid utf8: " ++ fault.message
  | malformedDecimal fault => fault.message

end ScanFilter.Plan
