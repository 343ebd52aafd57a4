import Mathlib.Order.Compare
import ScanFilter.Proofs.Comparison.Laws
import ScanFilter.Proofs.Decimal.Number
/-!
# Numbers and times compare exactly

Integers and decimals are numbers, and so are integers and times, a time being so many
milliseconds.  Two types meet in a pivot of some width, or of any number of digits, and
every one of these readings keeps the number.  So within each of the two families the
six comparisons are those of the rational numbers, whatever types the two sides have,
and values of all the types of a family are in one total preorder.

* `Family.Member` — the values of a family, none of them null or malformed;
* `pivotOrder?_member` — the order through any pivot is that of the numbers;
* `compareValues_exact` — the six comparisons of two members, and the total preorder.
-/

namespace ScanFilter

/-- Whether a comparison holds of two members of a linear order. -/
def ComparisonOperator.Relates {α : Type} [LinearOrder α] :
    ComparisonOperator → α → α → Prop
  | equalTo, x, y => x = y
  | notEquals, x, y => x ≠ y
  | lessThan, x, y => x < y
  | lessThanEqualTo, x, y => x ≤ y
  | greaterThan, x, y => y < x
  | greaterThanEqualTo, x, y => y ≤ x

instance {α : Type} [LinearOrder α] (op : ComparisonOperator) (x y : α) :
    Decidable (op.Relates x y) :=
  match op with
  | .equalTo => inferInstanceAs (Decidable (x = y))
  | .notEquals => inferInstanceAs (Decidable (x ≠ y))
  | .lessThan => inferInstanceAs (Decidable (x < y))
  | .lessThanEqualTo => inferInstanceAs (Decidable (x ≤ y))
  | .greaterThan => inferInstanceAs (Decidable (y < x))
  | .greaterThanEqualTo => inferInstanceAs (Decidable (y ≤ x))

/-- What an operator says of the order of two members of a linear order. -/
theorem ComparisonOperator.holds_compare {α : Type} [LinearOrder α]
    (op : ComparisonOperator) (x y : α) :
    op.holds (some (compare x y)) = decide (op.Relates x y) := by
  rcases lt_trichotomy x y with h | h | h
  · rw [compare_lt_iff_lt.mpr h]
    cases op <;> simp [holds, Relates, h, h.le, h.ne, h.not_gt, h.not_ge]
  · rw [compare_eq_iff_eq.mpr h]
    cases op <;> simp [holds, Relates, h]
  · rw [compare_gt_iff_gt.mpr h]
    cases op <;> simp [holds, Relates, h, h.le, h.ne', h.not_gt, h.not_ge]

/-- The number that a payload stands for, times in milliseconds since the epoch. -/
def Payload.number : Payload → ℚ
  | short n => n.toInt
  | int n => n.toInt
  | long n => n.toInt
  | time millis => millis.toInt
  | decimal d => d.value
  | _ => 0

/-- The types whose values all compare with each other as numbers. -/
inductive Family
  /-- Integers and decimals. -/
  | numbers
  /-- Integers and times. -/
  | instants

namespace Family

/-- The types of a family. -/
def types : Family → List DataType
  | numbers => [.short, .int, .long, .decimal]
  | instants => [.short, .int, .long, .date, .timestamp]

/-- A value of a family that is not null and fits its declared type. -/
structure Member (family : Family) where
  value : TypedValue
  notNull : value.isNull = false
  wellFormed : value.wellFormed = true
  declared : value.dataType ∈ family.types

/-- The number that a member stands for. -/
def Member.number {family : Family} (m : family.Member) : ℚ := m.value.payload.number

/-- An integer of 16 bits. -/
def Member.short (n : Int16) : numbers.Member :=
  ⟨.short n, rfl, rfl, (by decide : DataType.short ∈ numbers.types)⟩

/-- An integer of 32 bits. -/
def Member.int (n : Int32) : numbers.Member :=
  ⟨.int n, rfl, rfl, (by decide : DataType.int ∈ numbers.types)⟩

/-- An integer of 64 bits. -/
def Member.long (n : Int64) : numbers.Member :=
  ⟨.long n, rfl, rfl, (by decide : DataType.long ∈ numbers.types)⟩

/-- The kinds of members. -/
inductive Holds : Family → TypedValue → Prop
  | short {family : Family} (n : Int16) : Holds family ⟨.short, .short n⟩
  | int {family : Family} (n : Int32) : Holds family ⟨.int, .int n⟩
  | long {family : Family} (n : Int64) : Holds family ⟨.long, .long n⟩
  | decimal (d : Decimal) : Holds numbers ⟨.decimal, .decimal d⟩
  | date (millis : Int64) : Holds instants ⟨.date, .time millis⟩
  | timestamp (millis : Int64) : Holds instants ⟨.timestamp, .time millis⟩

/-- A member is of one of these kinds. -/
theorem Member.holds {family : Family} (m : family.Member) : family.Holds m.value := by
  obtain ⟨v, notNull, wellFormed, declared⟩ := m
  cases TypedValue.legal_of_wellFormed notNull wellFormed with
  | short n => exact .short n
  | int n => exact .int n
  | long n => exact .long n
  | decimal d =>
      cases family with
      | numbers => exact .decimal d
      | instants => simp [types] at declared
  | date millis =>
      cases family with
      | numbers => simp [types] at declared
      | instants => exact .date millis
  | timestamp millis =>
      cases family with
      | numbers => simp [types] at declared
      | instants => exact .timestamp millis
  | string text => cases family <;> simp [types] at declared
  | double x => cases family <;> simp [types] at declared
  | boolean b => cases family <;> simp [types] at declared
  | binary bytes => cases family <;> simp [types] at declared

end Family

open Family (Holds Member)
open TypedValue (readAs_of_legal)

variable {α : Type} {family : Family} {v l r : TypedValue}

/-! ## Every reading keeps the number -/

/-- Whether a reading of a value keeps the number. -/
def Keeps (read : TypedValue → Except FilterError α) (number : α → ℚ) (v : TypedValue) :
    Prop :=
  ∃ x, read v = .ok x ∧ number x = v.payload.number

theorem keeps_asShort (h : family.Holds v)
    (rank : v.dataType.precedence ≤ DataType.short.precedence) :
    Keeps TypedValue.asShort (fun n => n.toInt) v := by
  cases h with
  | short n => exact ⟨n, readAs_of_legal (.short n) rfl, rfl⟩
  | _ => simp [DataType.precedence] at rank

theorem keeps_asInt (h : family.Holds v)
    (rank : v.dataType.precedence ≤ DataType.int.precedence) :
    Keeps TypedValue.asInt (fun n => n.toInt) v := by
  cases h with
  | short n =>
      exact ⟨n.toInt32, readAs_of_legal (.short n) rfl, congrArg Int.cast n.toInt_toInt32⟩
  | int n => exact ⟨n, readAs_of_legal (.int n) rfl, rfl⟩
  | _ => simp [DataType.precedence] at rank

theorem keeps_asLong (h : family.Holds v)
    (rank : v.dataType.precedence ≤ DataType.long.precedence) :
    Keeps TypedValue.asLong (fun n => n.toInt) v := by
  cases h with
  | short n =>
      exact ⟨n.toInt64, readAs_of_legal (.short n) rfl, congrArg Int.cast n.toInt_toInt64⟩
  | int n =>
      exact ⟨n.toInt64, readAs_of_legal (.int n) rfl, congrArg Int.cast n.toInt_toInt64⟩
  | long n => exact ⟨n, readAs_of_legal (.long n) rfl, rfl⟩
  | _ => simp [DataType.precedence] at rank

theorem keeps_asDecimal (h : family.Holds v)
    (rank : v.dataType.precedence ≤ DataType.decimal.precedence) :
    Keeps TypedValue.asDecimal Decimal.value v := by
  cases h with
  | short n => exact ⟨_, readAs_of_legal (.short n) rfl, Decimal.value_ofInt n.toInt⟩
  | int n => exact ⟨_, readAs_of_legal (.int n) rfl, Decimal.value_ofInt n.toInt⟩
  | long n => exact ⟨_, readAs_of_legal (.long n) rfl, Decimal.value_ofInt n.toInt⟩
  | decimal d => exact ⟨d, readAs_of_legal (.decimal d) rfl, rfl⟩
  | date millis => simp [DataType.precedence] at rank
  | timestamp millis => simp [DataType.precedence] at rank

/-- Decimals are no times, so the family matters here. -/
theorem keeps_asTime (h : Family.instants.Holds v) :
    Keeps TypedValue.asTime (fun n => n.toInt) v := by
  cases h with
  | short n =>
      exact ⟨n.toInt64, readAs_of_legal (.short n) rfl, congrArg Int.cast n.toInt_toInt64⟩
  | int n =>
      exact ⟨n.toInt64, readAs_of_legal (.int n) rfl, congrArg Int.cast n.toInt_toInt64⟩
  | long n => exact ⟨n, readAs_of_legal (.long n) rfl, rfl⟩
  | date millis => exact ⟨millis, readAs_of_legal (.date millis) rfl, rfl⟩
  | timestamp millis => exact ⟨millis, readAs_of_legal (.timestamp millis) rfl, rfl⟩

/-! ## The order through a pivot is that of the numbers -/

/-- Words of a fixed width compare as the integers that they stand for. -/
theorem compareOfLessAndEq_eq_compare [LT α] [DecidableLT α] [DecidableEq α] {f : α → ℤ}
    (lt : ∀ x y, x < y ↔ f x < f y) (injective : ∀ x y, f x = f y → x = y) (x y : α) :
    compareOfLessAndEq x y = compare (f x : ℚ) (f y) := by
  unfold compareOfLessAndEq
  rcases lt_trichotomy (f x) (f y) with h | h | h
  · rw [if_pos ((lt x y).mpr h), compare_lt_iff_lt.mpr (Int.cast_lt.mpr h)]
  · have same := injective x y h
    have irrefl : ¬ x < y := fun less => h.not_lt ((lt x y).mp less)
    rw [if_neg irrefl, if_pos same, compare_eq_iff_eq.mpr (congrArg Int.cast h)]
  · have asymm : ¬ x < y := fun less => h.not_gt ((lt x y).mp less)
    have differ : x ≠ y := fun same => h.ne' (congrArg f same)
    rw [if_neg asymm, if_neg differ, compare_gt_iff_gt.mpr (Int.cast_lt.mpr h)]

theorem compare_short (x y : Int16) : compare x y = compare (x.toInt : ℚ) y.toInt :=
  compareOfLessAndEq_eq_compare (fun _ _ => Int16.lt_iff_toInt_lt)
    (fun _ _ => Int16.toInt_inj.mp) x y

theorem compare_int (x y : Int32) : compare x y = compare (x.toInt : ℚ) y.toInt :=
  compareOfLessAndEq_eq_compare (fun _ _ => Int32.lt_iff_toInt_lt)
    (fun _ _ => Int32.toInt_inj.mp) x y

theorem compare_long (x y : Int64) : compare x y = compare (x.toInt : ℚ) y.toInt :=
  compareOfLessAndEq_eq_compare (fun _ _ => Int64.lt_iff_toInt_lt)
    (fun _ _ => Int64.toInt_inj.mp) x y

/-- Readings that keep the numbers of both sides bring them to the order of the
numbers. -/
theorem orderAs_of_keeps {read : TypedValue → Except FilterError α} {number : α → ℚ}
    {order : α → α → Ordering} (exact : ∀ x y, order x y = compare (number x) (number y))
    (hl : Keeps read number l) (hr : Keeps read number r) :
    orderAs read (fun x y => some (order x y)) l r
      = .ok (some (compare l.payload.number r.payload.number)) := by
  obtain ⟨x, left, hx⟩ := hl
  obtain ⟨y, right, hy⟩ := hr
  rw [← hx, ← hy, ← exact]
  exact orderAs_eq_ok_iff.mpr ⟨x, y, left, right, rfl⟩

/-- The order of two members through their pivot is that of their numbers. -/
theorem pivotOrder?_member (l r : family.Member) :
    pivotOrder? l.value r.value = some (.ok (some (compare l.number r.number))) := by
  have left := DataType.precedence_le_pivot_left l.value.dataType r.value.dataType
  have right := DataType.precedence_le_pivot_right l.value.dataType r.value.dataType
  have declared : DataType.pivot l.value.dataType r.value.dataType ∈ family.types := by
    rcases DataType.pivot_eq_or l.value.dataType r.value.dataType with h | h
    · rw [h]
      exact l.declared
    · rw [h]
      exact r.declared
  unfold pivotOrder? Member.number
  generalize DataType.pivot l.value.dataType r.value.dataType = pivot at left right declared ⊢
  cases pivot with
  | short =>
      exact congrArg some (orderAs_of_keeps compare_short (keeps_asShort l.holds left)
        (keeps_asShort r.holds right))
  | int =>
      exact congrArg some (orderAs_of_keeps compare_int (keeps_asInt l.holds left)
        (keeps_asInt r.holds right))
  | long =>
      exact congrArg some (orderAs_of_keeps compare_long (keeps_asLong l.holds left)
        (keeps_asLong r.holds right))
  | decimal =>
      exact congrArg some (orderAs_of_keeps Decimal.compare_eq_compare_value
        (keeps_asDecimal l.holds left) (keeps_asDecimal r.holds right))
  | date =>
      cases family with
      | numbers => simp [Family.types] at declared
      | instants =>
          exact congrArg some (orderAs_of_keeps compare_long (keeps_asTime l.holds)
            (keeps_asTime r.holds))
  | timestamp =>
      cases family with
      | numbers => simp [Family.types] at declared
      | instants =>
          exact congrArg some (orderAs_of_keeps compare_long (keeps_asTime l.holds)
            (keeps_asTime r.holds))
  | _ => cases family <;> simp [Family.types] at declared

/-- A comparison of two members is that of their numbers. -/
theorem compareValues_member (op : ComparisonOperator) (l r : family.Member) :
    compareValues op l.value r.value = .ok (decide (op.Relates l.number r.number)) := by
  rw [compareValues_of_order (pivotOrder?_member l r), ← op.holds_compare]
  rfl

namespace Family.Member

/-- Whether one member is found to be at most another one. -/
def AtMost (a b : family.Member) : Prop :=
  compareValues .lessThanEqualTo a.value b.value = .ok true

instance (a b : family.Member) : Decidable (a.AtMost b) :=
  inferInstanceAs (Decidable (_ = _))

theorem atMost_iff (a b : family.Member) : a.AtMost b ↔ a.number ≤ b.number := by
  rw [AtMost, compareValues_member, Except.ok.injEq, decide_eq_true_iff]
  rfl

end Family.Member

/-- **Numbers and times compare exactly.**  A comparison of two members of a family
succeeds, and says of them what the operator says of their numbers, whatever types they
declare.  So of two members one is at most the other, and a member that is at most a
second one is at most everything that the second one is at most. -/
theorem compareValues_exact (family : Family) :
    (∀ (op : ComparisonOperator) (l r : family.Member),
      compareValues op l.value r.value = .ok (decide (op.Relates l.number r.number))) ∧
    (∀ a b : family.Member, a.AtMost b ∨ b.AtMost a) ∧
    (∀ a b c : family.Member, a.AtMost b → b.AtMost c → a.AtMost c) := by
  refine ⟨compareValues_member, ?_, ?_⟩
  · intro a b
    rw [Member.atMost_iff, Member.atMost_iff]
    exact le_total a.number b.number
  · intro a b c hab hbc
    rw [Member.atMost_iff] at hab hbc ⊢
    exact le_trans hab hbc

/-- A short integer. -/
def smallMember : Family.numbers.Member := ⟨.short 7, rfl, rfl, by decide⟩

/-- A decimal just below a long integer that is no double. -/
def decimalMember : Family.numbers.Member :=
  ⟨.decimal ⟨9007199254740992999, 3⟩, rfl, rfl, by decide⟩

@[inherit_doc decimalMember]
def longMember : Family.numbers.Member := ⟨.long 9007199254740993, rfl, rfl, by decide⟩

/-- Three members of three types, each at most the next one. -/
theorem compareValues_exact_mixed :
    smallMember.AtMost decimalMember ∧ decimalMember.AtMost longMember ∧
      smallMember.AtMost longMember := by
  have first : smallMember.AtMost decimalMember := by decide +kernel
  have second : decimalMember.AtMost longMember := by decide +kernel
  exact ⟨first, second, (compareValues_exact .numbers).2.2 _ _ _ first second⟩

end ScanFilter
