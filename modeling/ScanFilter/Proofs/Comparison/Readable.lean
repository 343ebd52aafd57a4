import ScanFilter.Comparison
import ScanFilter.Proofs.Outcome
import ScanFilter.Proofs.Value.Legal
/-!
# Which values compare

Whether two values compare is decided by their declared types, with one exception:
an infinite or NaN double is no decimal.  No other payload, however large the number
or odd the text, makes a comparison of legal values fail.  A comparison that fails
names the pivot, when there is no order on it, or else the declared type of the first
operand that cannot be read.

* `Converts`, `Readable` — the types and the values that can be read as a pivot;
* `exact_asString`, …, `exact_asTime` — each reading succeeds on just these values;
* `compareValues_outcome` — when a comparison succeeds, and how it fails.
-/

namespace ScanFilter

/-- Whether values of a declared type convert to a pivot: anything but bytes to a
text, numbers and texts to a number, whole numbers and times to a time. -/
def DataType.Converts : (pivot t : DataType) → Prop
  | string, t => t ≠ binary
  | short, t | int, t | long, t | double, t | decimal, t => t ≠ boolean ∧ t ≠ binary
  | date, t | timestamp, t => t ∈ [short, int, long, date, timestamp]
  | null, _ | boolean, _ | binary, _ => False

/-- Whether a payload is anything but an infinite or NaN double. -/
def Payload.isFinite : Payload → Bool
  | double x => x.isFinite
  | _ => true

/-- Whether a value can be read as a pivot. -/
structure TypedValue.Readable (pivot : DataType) (v : TypedValue) : Prop where
  notNull : v.isNull = false
  wellFormed : v.wellFormed = true
  converts : pivot.Converts v.dataType
  finite : pivot = .decimal → v.payload.isFinite = true

variable {α : Type} {pivot : DataType} {v l r : TypedValue}
  {read : TypedValue → Except FilterError α}

/-- A reading is exact on a value when it succeeds just if the value can be read as
the pivot, and otherwise names its declared type. -/
inductive Exact (pivot : DataType) (read : TypedValue → Except FilterError α)
    (v : TypedValue) : Prop
  | ok {a : α} (h : v.Readable pivot) (result : read v = .ok a)
  | error {fault : MemberFault} (h : ¬ v.Readable pivot)
      (result : read v = .error (.illegalMember v.dataType fault))

/-- A reading is exact when it converts just the payloads of legal values whose type
converts, infinite doubles apart. -/
theorem exact_readAs {target : Target} {convert? : Payload → Option α}
    (hc : v.Legal → ((convert? v.payload).isSome = true ↔
      pivot.Converts v.dataType ∧ (pivot = .decimal → v.payload.isFinite = true))) :
    Exact pivot (TypedValue.readAs target convert?) v := by
  by_cases legal : v.Legal
  · have converts := hc legal
    cases result : convert? v.payload with
    | none =>
        rw [result] at converts
        refine .error ?_ (TypedValue.readAs_of_unconvertible legal result)
        intro readable
        cases converts.mpr ⟨readable.converts, readable.finite⟩
    | some a =>
        rw [result] at converts
        obtain ⟨type, finite⟩ := converts.mp rfl
        exact .ok ⟨legal.isNull, legal.wellFormed, type, finite⟩
          (TypedValue.readAs_of_legal legal result)
  · obtain ⟨fault, result⟩ := TypedValue.readAs_of_not_legal legal target convert?
    refine .error ?_ result
    intro readable
    exact legal (TypedValue.legal_of_wellFormed readable.notNull readable.wellFormed)

/-- Everything but bytes is a text. -/
theorem exact_asString : Exact .string TypedValue.asString v := by
  apply exact_readAs
  intro legal
  cases legal <;> simp [Payload.asString?, DataType.Converts]

/-- Up to the 16-bit integers in rank, just these are 16-bit integers. -/
theorem exact_asShort (h : v.dataType.precedence ≤ DataType.short.precedence) :
    Exact .short TypedValue.asShort v := by
  apply exact_readAs
  intro legal
  cases legal <;> simp_all [Payload.asShort?, DataType.Converts, DataType.precedence]

theorem exact_asInt (h : v.dataType.precedence ≤ DataType.int.precedence) :
    Exact .int TypedValue.asInt v := by
  apply exact_readAs
  intro legal
  cases legal <;> simp_all [Payload.asInt?, DataType.Converts, DataType.precedence]

theorem exact_asLong (h : v.dataType.precedence ≤ DataType.long.precedence) :
    Exact .long TypedValue.asLong v := by
  apply exact_readAs
  intro legal
  cases legal <;> simp_all [Payload.asLong?, DataType.Converts, DataType.precedence]

/-- Up to the doubles in rank, all numbers are doubles. -/
theorem exact_asDouble (h : v.dataType.precedence ≤ DataType.double.precedence) :
    Exact .double TypedValue.asDouble v := by
  apply exact_readAs
  intro legal
  cases legal <;> simp_all [Payload.asDouble?, DataType.Converts, DataType.precedence]

/-- A double is a decimal just if it is finite. -/
theorem isSome_ofBinary64? (x : Binary64) :
    (Decimal.ofBinary64? x).isSome = x.isFinite := by
  unfold Decimal.ofBinary64?
  cases x.isFinite <;> rfl

/-- Up to the decimals in rank, all finite numbers are decimals. -/
theorem exact_asDecimal (h : v.dataType.precedence ≤ DataType.decimal.precedence) :
    Exact .decimal TypedValue.asDecimal v := by
  apply exact_readAs
  intro legal
  cases legal <;> simp_all [Payload.asDecimal?, Payload.isFinite, isSome_ofBinary64?,
    DataType.Converts, DataType.precedence]

/-- Up to the times in rank, whole numbers and times are times. -/
theorem exact_asTime (hp : pivot = .date ∨ pivot = .timestamp)
    (h : v.dataType.precedence ≤ pivot.precedence) : Exact pivot TypedValue.asTime v := by
  apply exact_readAs
  intro legal
  rcases hp with rfl | rfl <;>
    cases legal <;> simp_all [Payload.asTime?, DataType.Converts, DataType.precedence]

/-- What becomes of two operands that are read as a pivot, the left one first. -/
inductive OrderOutcome (pivot : DataType) (l r : TypedValue) :
    Except FilterError (Option Ordering) → Prop
  | ok (hl : l.Readable pivot) (hr : r.Readable pivot) (order : Option Ordering) :
      OrderOutcome pivot l r (.ok order)
  | left (hl : ¬ l.Readable pivot) (fault : MemberFault) :
      OrderOutcome pivot l r (.error (.illegalMember l.dataType fault))
  | right (hl : l.Readable pivot) (hr : ¬ r.Readable pivot) (fault : MemberFault) :
      OrderOutcome pivot l r (.error (.illegalMember r.dataType fault))

/-- Exact readings of two operands have such an outcome. -/
theorem orderAs_outcome (order : α → α → Option Ordering) (hl : Exact pivot read l)
    (hr : Exact pivot read r) : OrderOutcome pivot l r (orderAs read order l r) := by
  unfold orderAs
  cases hl with
  | error hl result =>
      rw [result, Outcome.error_bind]
      exact .left hl _
  | ok hl result =>
      rw [result, Outcome.ok_bind]
      cases hr with
      | error hr result' =>
          rw [result', Outcome.error_bind]
          exact .right hl hr _
      | ok hr result' =>
          rw [result', Outcome.ok_bind]
          exact .ok hl hr _

/-- Such an outcome is an order just if both operands can be read, and otherwise
names the declared type of the first one that cannot. -/
theorem OrderOutcome.map {result : Except FilterError (Option Ordering)}
    (h : OrderOutcome pivot l r result) (f : Option Ordering → Bool) :
    ((∃ b, result.map f = .ok b) ↔ l.Readable pivot ∧ r.Readable pivot) ∧
    (¬ l.Readable pivot →
      ∃ fault, result.map f = .error (.illegalMember l.dataType fault)) ∧
    (l.Readable pivot → ¬ r.Readable pivot →
      ∃ fault, result.map f = .error (.illegalMember r.dataType fault)) := by
  cases h with
  | ok hl hr order =>
      refine ⟨⟨fun _ => ⟨hl, hr⟩, fun _ => ⟨f order, rfl⟩⟩, ?_, ?_⟩
      · intro unread
        exact absurd hl unread
      · intro _ unread
        exact absurd hr unread
  | left hl fault =>
      refine ⟨⟨?_, fun both => absurd both.1 hl⟩, fun _ => ⟨fault, rfl⟩, ?_⟩
      · intro success
        obtain ⟨b, success⟩ := success
        cases success
      · intro readable
        exact absurd readable hl
  | right hl hr fault =>
      refine ⟨⟨?_, fun both => absurd both.2 hr⟩, ?_, fun _ _ => ⟨fault, rfl⟩⟩
      · intro success
        obtain ⟨b, success⟩ := success
        cases success
      · intro unread
        exact absurd hl unread

/-- Whether a pivot has no order. -/
def DataType.Unordered (t : DataType) : Prop := t = null ∨ t = boolean ∨ t = binary

/-- Nothing can be read as a pivot without an order. -/
theorem DataType.Unordered.not_converts (h : pivot.Unordered) (t : DataType) :
    ¬ pivot.Converts t := by
  rcases h with rfl | rfl | rfl <;> exact id

/-- There is an order through every pivot that has one, and its outcome is decided by
the operands that can be read as the pivot. -/
theorem pivotOrder?_outcome (l r : TypedValue) :
    ((DataType.pivot l.dataType r.dataType).Unordered ∧ pivotOrder? l r = none) ∨
    (¬ (DataType.pivot l.dataType r.dataType).Unordered ∧ ∃ result,
      pivotOrder? l r = some result ∧
      OrderOutcome (DataType.pivot l.dataType r.dataType) l r result) := by
  have left := DataType.precedence_le_pivot_left l.dataType r.dataType
  have right := DataType.precedence_le_pivot_right l.dataType r.dataType
  unfold pivotOrder?
  generalize DataType.pivot l.dataType r.dataType = pivot at left right ⊢
  cases pivot with
  | null => exact .inl ⟨.inl rfl, rfl⟩
  | boolean => exact .inl ⟨.inr (.inl rfl), rfl⟩
  | binary => exact .inl ⟨.inr (.inr rfl), rfl⟩
  | string =>
      exact .inr ⟨by simp [DataType.Unordered], _, rfl,
        orderAs_outcome _ exact_asString exact_asString⟩
  | short =>
      exact .inr ⟨by simp [DataType.Unordered], _, rfl,
        orderAs_outcome _ (exact_asShort left) (exact_asShort right)⟩
  | int =>
      exact .inr ⟨by simp [DataType.Unordered], _, rfl,
        orderAs_outcome _ (exact_asInt left) (exact_asInt right)⟩
  | long =>
      exact .inr ⟨by simp [DataType.Unordered], _, rfl,
        orderAs_outcome _ (exact_asLong left) (exact_asLong right)⟩
  | double =>
      exact .inr ⟨by simp [DataType.Unordered], _, rfl,
        orderAs_outcome _ (exact_asDouble left) (exact_asDouble right)⟩
  | decimal =>
      exact .inr ⟨by simp [DataType.Unordered], _, rfl,
        orderAs_outcome _ (exact_asDecimal left) (exact_asDecimal right)⟩
  | date =>
      exact .inr ⟨by simp [DataType.Unordered], _, rfl,
        orderAs_outcome _ (exact_asTime (.inl rfl) left) (exact_asTime (.inl rfl) right)⟩
  | timestamp =>
      exact .inr ⟨by simp [DataType.Unordered], _, rfl,
        orderAs_outcome _ (exact_asTime (.inr rfl) left) (exact_asTime (.inr rfl) right)⟩

/-- A comparison of values with an order says what the operator says of it. -/
theorem compareValues_of_order {result : Except FilterError (Option Ordering)}
    (h : pivotOrder? l r = some result) (op : ComparisonOperator) :
    compareValues op l r = result.map op.holds := by
  unfold compareValues
  rw [h]

/-- **When a comparison succeeds, and how it fails.**  It succeeds just if both
operands can be read as the pivot of their types.  Otherwise it names the pivot and
the operator, when the pivot has no order, or else the declared type of the first
operand that cannot be read. -/
theorem compareValues_outcome (op : ComparisonOperator) (l r : TypedValue) :
    let pivot := DataType.pivot l.dataType r.dataType
    ((∃ b, compareValues op l r = .ok b) ↔ l.Readable pivot ∧ r.Readable pivot) ∧
    (pivot.Unordered → compareValues op l r = .error (.unsupportedType pivot op.kind)) ∧
    (¬ pivot.Unordered → ¬ l.Readable pivot →
      ∃ fault, compareValues op l r = .error (.illegalMember l.dataType fault)) ∧
    (¬ pivot.Unordered → l.Readable pivot → ¬ r.Readable pivot →
      ∃ fault, compareValues op l r = .error (.illegalMember r.dataType fault)) := by
  intro pivot
  obtain ⟨unordered, none⟩ | ⟨ordered, result, some, outcome⟩ := pivotOrder?_outcome l r
  · have refused := compareValues_unsupported none op
    refine ⟨?_, fun _ => refused, absurd unordered, absurd unordered⟩
    constructor
    · intro success
      obtain ⟨b, success⟩ := success
      rw [refused] at success
      cases success
    · intro both
      exact absurd both.1.converts (unordered.not_converts _)
  · obtain ⟨succeeds, left, right⟩ := outcome.map op.holds
    rw [compareValues_of_order some]
    exact ⟨succeeds, fun unordered => absurd unordered ordered, fun _ => left, fun _ => right⟩

end ScanFilter
