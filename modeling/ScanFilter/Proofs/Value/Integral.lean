import ScanFilter.Proofs.Binary64.Text
import ScanFilter.Proofs.Value.Legal
/-!
# Values that are read as integers

An integer, a time and a text that denotes an integer are read as integers of each width
that holds them, and they are read alike: all widths, and times, have one integer in
common, and differ only in their range and in that the narrow ones refuse a time.  What is
read as an integer and is no time is read as a decimal of the same number and as the
double nearest to it.

* `asLong?_eq_bind` and its like — each reading narrows the integer of a payload;
* `ofText_of_spells` — a text that spells an integer is read as its decimal;
* `asInt_string` and its like — a text is read as the integers that it denotes;
* `readings_cohere` — how eight readings of any value fit together.
-/

namespace ScanFilter

open Numeral (Denotes Spells natural)
open Binary64 (Nearest Rounds)

/-! ## Texts that spell integers -/

/-- A text that spells an integer is read as its decimal. -/
theorem Decimal.ofText_of_spells {cs : List Char} {z : ℤ} (h : Spells cs z) :
    ofText cs = .ok (ofInt z) := by
  obtain ⟨sign, unit, digits, rfl, signed, nonempty, all, rfl⟩ := h
  cases signed with
  | none =>
      have read := ofText_whole false 0 all nonempty (.none rfl) (by decide)
      rw [List.append_nil] at read
      rw [one_mul]
      exact read
  | minus =>
      have read := ofText_whole true 0 all nonempty (.none rfl) (by decide)
      rw [List.append_nil] at read
      rw [neg_one_mul]
      exact read
  | plus =>
      have marks : ∀ c ∈ '+' :: digits, c ≠ 'e' ∧ c ≠ 'E' := by
        intro c hc
        rcases List.mem_cons.mp hc with rfl | hc
        · decide
        · exact ⟨all.ne hc (by decide), all.ne hc (by decide)⟩
      have whole : ∀ c ∈ '+' :: digits, c ≠ '.' := by
        intro c hc
        rcases List.mem_cons.mp hc with rfl | hc
        · decide
        · exact all.ne hc (by decide)
      have number : unscaledOfText ('+' :: digits) = .ok (natural digits) := by
        unfold unscaledOfText
        split
        · next h => cases h
        · next h => cases h
        · rw [unsignedOfText_plus all nonempty]
          rfl
      have read : ofText ('+' :: digits ++ []) = .ok ⟨natural digits, 0⟩ :=
        ofText_of_parts marks (List.cons_ne_nil _ _) (.none rfl) (splitPoint_whole whole) number
          (by decide)
      rw [List.append_nil] at read
      rw [one_mul]
      exact read

/-! ## The integer of a payload -/

namespace Payload

variable {p : Payload} {z : ℤ}

/-- The integer of a payload, if it is an integer, a time or a text that denotes one. -/
def integer? : Payload → Option ℤ
  | short n => some n.toInt
  | int n => some n.toInt
  | long n => some n.toInt
  | time millis => some millis.toInt
  | string s => integerOfText? s
  | _ => none

/-- Whether a payload is a time. -/
def IsTime (p : Payload) : Prop := ∃ millis, p = time millis

theorem integer?_string {text : String} : (string text).integer? = some z ↔
    Denotes text.toList z := Numeral.readInteger?_trim

theorem asLong?_eq_bind (p : Payload) : p.asLong? = p.integer?.bind Integer.long? := by
  cases p with
  | short n => exact (Integer.long?_eq_some_iff.mpr n.toInt_toInt64).symm
  | int n => exact (Integer.long?_eq_some_iff.mpr n.toInt_toInt64).symm
  | long n => exact (Integer.long?_toInt n).symm
  | time millis => exact (Integer.long?_toInt millis).symm
  | _ => rfl

theorem asTime?_eq_asLong? (p : Payload) : p.asTime? = p.asLong? := by
  cases p <;> rfl

theorem asInt?_eq_bind (h : ¬ p.IsTime) : p.asInt? = p.integer?.bind Integer.int? := by
  cases p with
  | short n => exact (Integer.int?_eq_some_iff.mpr n.toInt_toInt32).symm
  | int n => exact (Integer.int?_toInt n).symm
  | time millis => exact absurd ⟨millis, rfl⟩ h
  | _ => rfl

theorem asShort?_eq_bind (h : ¬ p.IsTime) : p.asShort? = p.integer?.bind Integer.short? := by
  cases p with
  | short n => exact (Integer.short?_toInt n).symm
  | time millis => exact absurd ⟨millis, rfl⟩ h
  | _ => rfl

/-- The narrow readings refuse a time. -/
theorem narrow_of_isTime (h : p.IsTime) : p.asInt? = none ∧ p.asShort? = none := by
  obtain ⟨millis, rfl⟩ := h
  exact ⟨rfl, rfl⟩

/-- Of the integers of some width the one that an integer narrows to has its value. -/
theorem bind_eq_some_iff {α : Type} {narrow? : Int → Option α} {toInt : α → Int}
    (exact : ∀ z a, narrow? z = some a ↔ toInt a = z) {o : Option ℤ} {a : α} :
    o.bind narrow? = some a ↔ o = some (toInt a) := by
  rw [Option.bind_eq_some_iff]
  constructor
  · rintro ⟨z, found, fits⟩
    rw [(exact z a).mp fits]
    exact found
  · intro found
    exact ⟨toInt a, found, (exact _ a).mpr rfl⟩

theorem asLong?_eq_some_iff {n : Int64} : p.asLong? = some n ↔ p.integer? = some n.toInt := by
  rw [asLong?_eq_bind]
  exact bind_eq_some_iff fun _ _ => Integer.long?_eq_some_iff

/-- An integer that is no time is read as a decimal of the same number. -/
theorem asDecimal?_of_integer (h : ¬ p.IsTime) (hz : p.integer? = some z) :
    p.asDecimal? = some (.ofInt z) := by
  cases p with
  | short n => exact congrArg (Option.map Decimal.ofInt) hz
  | int n => exact congrArg (Option.map Decimal.ofInt) hz
  | long n => exact congrArg (Option.map Decimal.ofInt) hz
  | time millis => exact absurd ⟨millis, rfl⟩ h
  | string text =>
      have spells := Numeral.readInteger?_eq_some_iff.mp hz
      exact congrArg Except.toOption (Decimal.ofText_of_spells spells)
  | _ => cases hz

/-- An integer that is no time is read as the double that it is rounded to. -/
theorem asDouble?_of_integer (h : ¬ p.IsTime) (hz : p.integer? = some z) :
    ∃ x, p.asDouble? = some x ∧ Rounds z x := by
  cases p with
  | short n =>
      cases hz
      exact ⟨_, rfl, Binary64.rounds_ofInt n.toInt⟩
  | int n =>
      cases hz
      exact ⟨_, rfl, Binary64.rounds_ofInt n.toInt⟩
  | long n =>
      cases hz
      exact ⟨_, rfl, Binary64.rounds_ofInt n.toInt⟩
  | time millis => exact absurd ⟨millis, rfl⟩ h
  | string text => exact Binary64.ofText?_of_spells (Numeral.readInteger?_eq_some_iff.mp hz)
  | _ => cases hz

end Payload

namespace TypedValue

variable {α : Type} {v : TypedValue}

/-- Whether a reading fails because of the member that it is of, by the declared type. -/
def Refuses (v : TypedValue) (reading : Except FilterError α) : Prop :=
  ∃ fault, reading = .error (.illegalMember v.dataType fault)

/-- Whether all readings of a value fail, by its declared type. -/
structure Unreadable (v : TypedValue) : Prop where
  string : v.Refuses v.asString
  short : v.Refuses v.asShort
  int : v.Refuses v.asInt
  long : v.Refuses v.asLong
  double : v.Refuses v.asDouble
  decimal : v.Refuses v.asDecimal
  time : v.Refuses v.asTime
  boolean : v.Refuses v.asBoolean

/-- A value that is null, or whose payload does not fit its type, is unreadable. -/
theorem unreadable_of_not_legal (h : ¬ v.Legal) : v.Unreadable :=
  ⟨readAs_of_not_legal h .., readAs_of_not_legal h .., readAs_of_not_legal h ..,
    readAs_of_not_legal h .., readAs_of_not_legal h .., readAs_of_not_legal h ..,
    readAs_of_not_legal h .., readAs_of_not_legal h ..⟩

theorem asLong_eq_ok_iff {n : Int64} : v.asLong = .ok n ↔
    v.isNull = false ∧ v.wellFormed = true ∧ v.payload.integer? = some n.toInt := by
  rw [← Payload.asLong?_eq_some_iff]
  exact readAs_eq_ok_iff

/-- A narrow reading gives what the wide one gives, if this is in range and no time. -/
theorem readAs_eq_ok_iff_of_narrow {target : Target} {convert? : Payload → Option α}
    {narrow? : Int → Option α} {toInt : α → Int} (exact : ∀ z a, narrow? z = some a ↔ toInt a = z)
    (bind : ¬ v.payload.IsTime → convert? v.payload = v.payload.integer?.bind narrow?)
    (none : v.payload.IsTime → convert? v.payload = none)
    (wide : ∀ a, ∃ m : Int64, m.toInt = toInt a) {a : α} :
    v.readAs target convert? = .ok a ↔
      ¬ v.payload.IsTime ∧ ∃ m, v.asLong = .ok m ∧ m.toInt = toInt a := by
  rw [readAs_eq_ok_iff]
  by_cases time : v.payload.IsTime
  · rw [none time]
    constructor
    · rintro ⟨_, _, found⟩
      cases found
    · rintro ⟨notTime, _⟩
      exact absurd time notTime
  · rw [bind time, Payload.bind_eq_some_iff exact]
    constructor
    · rintro ⟨notNull, wellFormed, found⟩
      obtain ⟨m, same⟩ := wide a
      rw [← same] at found
      exact ⟨time, m, asLong_eq_ok_iff.mpr ⟨notNull, wellFormed, found⟩, same⟩
    · rintro ⟨_, m, read, same⟩
      rw [← same]
      exact asLong_eq_ok_iff.mp read

theorem asInt_eq_ok_iff {n : Int32} : v.asInt = .ok n ↔
    ¬ v.payload.IsTime ∧ ∃ m, v.asLong = .ok m ∧ m.toInt = n.toInt :=
  readAs_eq_ok_iff_of_narrow (fun _ _ => Integer.int?_eq_some_iff) Payload.asInt?_eq_bind
    (fun time => (Payload.narrow_of_isTime time).1) fun n => ⟨n.toInt64, n.toInt_toInt64⟩

theorem asShort_eq_ok_iff {n : Int16} : v.asShort = .ok n ↔
    ¬ v.payload.IsTime ∧ ∃ m, v.asLong = .ok m ∧ m.toInt = n.toInt :=
  readAs_eq_ok_iff_of_narrow (fun _ _ => Integer.short?_eq_some_iff) Payload.asShort?_eq_bind
    (fun time => (Payload.narrow_of_isTime time).2) fun n => ⟨n.toInt64, n.toInt_toInt64⟩

/-- A time is read where a long integer is, and gives the same. -/
theorem asTime_eq_ok_iff {n : Int64} : v.asTime = .ok n ↔ v.asLong = .ok n := by
  refine readAs_eq_ok_iff.trans ?_
  rw [Payload.asTime?_eq_asLong?]
  exact readAs_eq_ok_iff.symm

/-- A text is read as the integers of a width that it denotes. -/
theorem readAs_string_eq_ok_iff {target : Target} {convert? : Payload → Option α}
    {narrow? : Int → Option α} {toInt : α → Int} {text : String}
    (exact : ∀ z a, narrow? z = some a ↔ toInt a = z)
    (bind : convert? (.string text) = (Payload.integerOfText? text).bind narrow?) {a : α} :
    (string text).readAs target convert? = .ok a ↔ Denotes text.toList (toInt a) := by
  rw [readAs_eq_ok_iff, ← Payload.integer?_string]
  have converts : convert? (.string text) = some a ↔
      (Payload.string text).integer? = some (toInt a) :=
    bind ▸ Payload.bind_eq_some_iff exact
  exact ⟨fun h => converts.mp h.2.2, fun h => ⟨rfl, rfl, converts.mpr h⟩⟩

theorem asShort_string {text : String} {n : Int16} :
    (string text).asShort = .ok n ↔ Denotes text.toList n.toInt :=
  readAs_string_eq_ok_iff (fun _ _ => Integer.short?_eq_some_iff) rfl

theorem asInt_string {text : String} {n : Int32} :
    (string text).asInt = .ok n ↔ Denotes text.toList n.toInt :=
  readAs_string_eq_ok_iff (fun _ _ => Integer.int?_eq_some_iff) rfl

theorem asLong_string {text : String} {n : Int64} :
    (string text).asLong = .ok n ↔ Denotes text.toList n.toInt :=
  readAs_string_eq_ok_iff (fun _ _ => Integer.long?_eq_some_iff) rfl

theorem asTime_string {text : String} {n : Int64} :
    (string text).asTime = .ok n ↔ Denotes text.toList n.toInt :=
  readAs_string_eq_ok_iff (fun _ _ => Integer.long?_eq_some_iff) rfl

/-- What is read as a long integer and is no time is read as a decimal of the same number
and as a double that is nearest to it. -/
theorem asDecimal_asDouble_of_asLong {n : Int64} (h : v.asLong = .ok n)
    (time : ¬ v.payload.IsTime) :
    (∃ d, v.asDecimal = .ok d ∧ d.value = n.toInt) ∧
    ∃ x, v.asDouble = .ok x ∧ Nearest n.toInt x := by
  obtain ⟨notNull, wellFormed, found⟩ := asLong_eq_ok_iff.mp h
  obtain ⟨x, converts, rounds⟩ := Payload.asDouble?_of_integer time found
  have small := Binary64.abs_le_of_range n.le_toInt n.toInt_lt
  constructor
  · have decimal := Payload.asDecimal?_of_integer time found
    exact ⟨_, readAs_eq_ok_iff.mpr ⟨notNull, wellFormed, decimal⟩, Decimal.value_ofInt _⟩
  · exact ⟨x, readAs_eq_ok_iff.mpr ⟨notNull, wellFormed, converts⟩,
      (rounds.rank_eq_iff small).mp rfl⟩

end TypedValue

/-- **The readings of a value cohere.**  Whatever a value declares and holds, it is read as
a time just where it is read as a long integer, with one outcome; and as a narrower
integer just where, in addition, the long one is in range and no time.  What is read as a
long integer and is no time is read as a decimal of the same number and as a double that
is nearest to it.  Of a text the long integer is what the text denotes.  A value that is
null, or whose payload does not fit its type, is not read at all. -/
theorem readings_cohere (v : TypedValue) :
    (∀ n, v.asTime = .ok n ↔ v.asLong = .ok n) ∧
    (∀ n, v.asInt = .ok n ↔
      ¬ v.payload.IsTime ∧ ∃ m, v.asLong = .ok m ∧ m.toInt = n.toInt) ∧
    (∀ n, v.asShort = .ok n ↔
      ¬ v.payload.IsTime ∧ ∃ m, v.asLong = .ok m ∧ m.toInt = n.toInt) ∧
    (∀ n, v.asLong = .ok n → ¬ v.payload.IsTime →
      (∃ d, v.asDecimal = .ok d ∧ d.value = n.toInt) ∧
      ∃ x, v.asDouble = .ok x ∧ Nearest n.toInt x) ∧
    (∀ text n, v = .string text → (v.asLong = .ok n ↔ Denotes text.toList n.toInt)) ∧
    (v.isNull = true ∨ v.wellFormed = false → v.Unreadable) := by
  refine ⟨fun _ => TypedValue.asTime_eq_ok_iff, fun _ => TypedValue.asInt_eq_ok_iff,
    fun _ => TypedValue.asShort_eq_ok_iff,
    fun _ read time => TypedValue.asDecimal_asDouble_of_asLong read time, ?_, ?_⟩
  · rintro text n rfl
    exact TypedValue.asLong_string
  · intro bad
    refine TypedValue.unreadable_of_not_legal fun legal => ?_
    rw [legal.isNull, legal.wellFormed] at bad
    simp at bad

/-- A text with a sign and blanks is read as a decimal and a double of its number; a text
under another type is not read at all. -/
theorem readings_cohere_of_texts :
    ((∃ d, (TypedValue.string " +07 ").asDecimal = .ok d ∧ d.value = (7 : Int64).toInt) ∧
      ∃ x, (TypedValue.string " +07 ").asDouble = .ok x ∧ Nearest (7 : Int64).toInt x) ∧
    (TypedValue.mk .long (.string "7")).Unreadable := by
  have read : (TypedValue.string " +07 ").asLong = .ok 7 := by decide +kernel
  have time : ¬ (TypedValue.string " +07 ").payload.IsTime := by
    rintro ⟨_, ⟨⟩⟩
  exact ⟨(readings_cohere _).2.2.2.1 7 read time,
    (readings_cohere ⟨.long, .string "7"⟩).2.2.2.2.2 (.inr rfl)⟩

end ScanFilter
