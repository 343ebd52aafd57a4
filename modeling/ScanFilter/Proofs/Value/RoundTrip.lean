import ScanFilter.Proofs.Comparison.Laws
import ScanFilter.Proofs.Value.Integral
import ScanFilter.Value.Text
/-!
# Values through their texts

A value that is neither null nor bytes is read as a text, and the text is the one that it
is shown by.  Taken as a value, this text equals the value it came from: beside a text
everything is compared as a text.  And the text gives the payload back to the reading that
payloads of its kind have.  A decimal comes back as the same number, though not always
with the scale it had; a double comes back as the same word, but for a NaN, which comes
back as a NaN.

* `denotes_integerText`, `asBoolean_truthText`, `asDecimal_text`, `asDouble_text` — what
  each kind of text is read as;
* `compareTyped_text` — what is read as a text equals the text;
* `text_roundTrip` — values are read back from their texts, and bytes have none.
-/

namespace ScanFilter

open Numeral (Denotes)

variable {v l r : TypedValue}

/-- Whether a value gives a payload back, by the reading for payloads of its kind: a
decimal as a number, a NaN as a NaN, and all else literally.  Nothing gives back bytes. -/
def TypedValue.GivesBack (v : TypedValue) : Payload → Prop
  | .string text => v.asString = .ok text
  | .short n => v.asShort = .ok n
  | .int n => v.asInt = .ok n
  | .long n => v.asLong = .ok n
  | .double x => ∃ y, v.asDouble = .ok y ∧ x.Alike y
  | .decimal d => ∃ d', v.asDecimal = .ok d' ∧ d'.value = d.value
  | .time millis => v.asTime = .ok millis
  | .boolean b => v.asBoolean = .ok b
  | .null | .binary _ => False

/-! ## What the texts are read as -/

theorem denotes_integerText (n : ℤ) : Denotes (integerText n).toList n := by
  rw [integerText, String.toList_ofList]
  exact (Numeral.spells_integer n).denotes

namespace TypedValue

theorem asBoolean_truthText (b : Bool) : (string (truthText b)).asBoolean = .ok b := by
  cases b <;> decide

/-- The text of a decimal is read as the decimal in canonical form. -/
theorem asDecimal_text (d : Decimal) :
    (string (String.ofList d.text)).asDecimal = .ok d.canonical := by
  refine readAs_of_legal (.string _) ?_
  change (Decimal.ofText (Blank.trim (String.ofList d.text).toList)).toOption = some d.canonical
  rw [String.toList_ofList, d.solid_text.trim, d.ofText_text]
  rfl

/-- The text of a double is read as the double, up to the word of a NaN. -/
theorem asDouble_text (x : Binary64) :
    ∃ y, (string (String.ofList x.text)).asDouble = .ok y ∧ x.Alike y := by
  obtain ⟨y, read, alike⟩ := x.exists_ofText?_text
  refine ⟨y, readAs_of_legal (.string _) ?_, alike⟩
  change Binary64.ofText? (Blank.trim (String.ofList x.text).toList) = some y
  rw [String.toList_ofList, x.solid_text.trim, read]

/-- A value other than bytes is read as its text. -/
theorem asString_of_legal (h : v.Legal) (hb : v.dataType ≠ .binary) :
    v.asString = .ok v.text := by
  refine readAs_of_legal h ?_
  cases h with
  | binary bytes => exact absurd rfl hb
  | _ => rfl

/-- Bytes are refused as a text. -/
theorem refuses_asString_of_binary (h : v.dataType = .binary) : v.Refuses v.asString := by
  by_cases legal : v.Legal
  · refine ⟨_, readAs_of_unconvertible legal ?_⟩
    cases legal with
    | binary bytes => rfl
    | _ => cases h
  · exact readAs_of_not_legal legal ..

/-- The text of a value gives its payload back. -/
theorem givesBack_text (h : v.Legal) (hb : v.dataType ≠ .binary) :
    (string v.text).GivesBack v.payload := by
  cases h with
  | string text => exact asString_string text
  | short n => exact asShort_string.mpr (denotes_integerText n.toInt)
  | int n => exact asInt_string.mpr (denotes_integerText n.toInt)
  | long n => exact asLong_string.mpr (denotes_integerText n.toInt)
  | double x => exact asDouble_text x
  | decimal d => exact ⟨d.canonical, asDecimal_text d, d.value_canonical⟩
  | date millis => exact asTime_string.mpr (denotes_integerText millis.toInt)
  | timestamp millis => exact asTime_string.mpr (denotes_integerText millis.toInt)
  | boolean b => exact asBoolean_truthText b
  | binary bytes => exact absurd rfl hb

end TypedValue

/-! ## Comparing a value with its text -/

/-- Beside a text both values are compared as texts. -/
theorem pivotOrder?_of_string (h : l.dataType = .string ∨ r.dataType = .string) :
    pivotOrder? l r
      = some (orderAs TypedValue.asString (fun a b => some (compare a b)) l r) := by
  have pivot : DataType.pivot l.dataType r.dataType = .string := by
    rcases h with left | right
    · rw [left]
      cases r.dataType <;> rfl
    · rw [right]
      cases l.dataType <;> rfl
  unfold pivotOrder?
  rw [pivot]

/-- Beside a text, two values that are read as one text are equal. -/
theorem compareTyped_of_asString {text : String} (hl : l.asString = .ok text)
    (hr : r.asString = .ok text) (h : l.dataType = .string ∨ r.dataType = .string) :
    compareTyped .equalTo l r = .ok (.boolean true) := by
  have order : orderAs TypedValue.asString (fun a b => some (compare a b)) l r
      = .ok (some .eq) :=
    orderAs_eq_ok_iff.mpr ⟨text, text, hl, hr, congrArg some Std.ReflCmp.compare_self⟩
  rw [compareTyped, comparisonHolds_of_not_null (TypedValue.readAs_eq_ok_iff.mp hl).1
    (TypedValue.readAs_eq_ok_iff.mp hr).1, compareValues_of_order (pivotOrder?_of_string h), order]
  rfl

/-- What is read as a text equals the text, on either side. -/
theorem compareTyped_text {text : String} (h : v.asString = .ok text) :
    compareTyped .equalTo v (.string text) = .ok (.boolean true) ∧
    compareTyped .equalTo (.string text) v = .ok (.boolean true) :=
  have itself := TypedValue.asString_string text
  ⟨compareTyped_of_asString h itself (.inr rfl), compareTyped_of_asString itself h (.inl rfl)⟩

/-- **Values are read back from their texts.**  A well-formed value that is neither null
nor bytes is read as the text that it is shown by, whatever its kind.  It equals this text
on either side of a comparison, and the text gives its payload back, through the reading
that payloads of its kind have.  Bytes, well formed or not, are never read as a text. -/
theorem text_roundTrip (v : TypedValue) :
    (v.isNull = false → v.wellFormed = true → v.dataType ≠ .binary →
      v.asString = .ok v.text ∧
      compareTyped .equalTo v (.string v.text) = .ok (.boolean true) ∧
      compareTyped .equalTo (.string v.text) v = .ok (.boolean true) ∧
      (TypedValue.string v.text).GivesBack v.payload) ∧
    (v.dataType = .binary → v.Refuses v.asString) := by
  constructor
  · intro notNull wellFormed hb
    have legal := TypedValue.legal_of_wellFormed notNull wellFormed
    have shown := TypedValue.asString_of_legal legal hb
    obtain ⟨left, right⟩ := compareTyped_text shown
    exact ⟨shown, left, right, TypedValue.givesBack_text legal hb⟩
  · exact TypedValue.refuses_asString_of_binary

/-- A zero keeps its sign through its text, and a decimal of the largest scale its number;
bytes have no text, nor has what is no bytes but declared as such. -/
theorem text_roundTrip_extreme :
    (TypedValue.string (TypedValue.double ⟨0x8000000000000000⟩).text).GivesBack
      (.double ⟨0x8000000000000000⟩) ∧
    (TypedValue.string (TypedValue.decimal ⟨-120, 9223372036854775807⟩).text).GivesBack
      (.decimal ⟨-120, 9223372036854775807⟩) ∧
    (TypedValue.mk .binary (.string "00")).Refuses
      (TypedValue.mk .binary (.string "00")).asString :=
  ⟨((text_roundTrip (.double ⟨0x8000000000000000⟩)).1 rfl rfl (by decide)).2.2.2,
    ((text_roundTrip (.decimal ⟨-120, 9223372036854775807⟩)).1 rfl rfl (by decide)).2.2.2,
    (text_roundTrip ⟨.binary, .string "00"⟩).2 rfl⟩

end ScanFilter
