import ScanFilter.Comparison
import ScanFilter.Proofs.Value.Agreement
/-!
# Comparing values that differ in the form of a decimal

A comparison sees a decimal as a number or as a text, and both are the same for
decimals with one canonical form.  It would see more than that if it read a decimal
as a double, which it does not do: the pivot of a decimal ranks above the doubles,
and a decimal of another declared type is refused.

* `readAs_of_canonical` — a reading gives related results, or errors that agree;
* `compareValues_of_canonical`, `comparisonHolds_of_canonical` — a comparison has
  the same outcome, or errors that agree.
-/

namespace ScanFilter

variable {α : Type} {R : α → α → Prop} {a a' b b' v w : TypedValue}

namespace TypedValue

/-- A reading of values with one canonical form gives related results, if the
payloads convert to related ones. -/
theorem readAs_of_canonical (target : Target) {convert? : Payload → Option α}
    (h : v.canonical = w.canonical)
    (hc : v.wellFormed = true → Option.Rel R (convert? v.payload) (convert? w.payload)) :
    Corresponds R (v.readAs target convert?) (w.readAs target convert?) := by
  have type := dataType_of_canonical h
  have payload := Payload.agrees_of_canonical (payload_of_canonical h)
  unfold readAs
  rw [← isNull_of_canonical h, ← wellFormed_of_canonical h, ← type]
  by_cases hn : v.isNull = true
  · rw [if_pos hn, if_pos hn]
    exact .error ⟨rfl, rfl⟩
  · rw [if_neg hn, if_neg hn]
    by_cases hw : v.wellFormed = true
    · have result := hc hw
      rw [hw, if_neg (by decide), if_neg (by decide)]
      generalize convert? v.payload = x at result ⊢
      generalize convert? w.payload = y at result ⊢
      cases result with
      | none => exact .error ⟨rfl, payload, rfl⟩
      | some related => exact .ok related
    · rw [Bool.not_eq_true] at hw
      rw [hw, if_pos (by decide), if_pos (by decide)]
      exact .error ⟨rfl, payload⟩

/-- Payloads with one canonical form convert alike, if decimals do. -/
theorem convert_of_canonical {convert? : Payload → Option α} {p q : Payload}
    (hR : ∀ x, R x x) (h : p.canonical = q.canonical)
    (hd : ∀ x y : Decimal, x.canonical = y.canonical →
      Option.Rel R (convert? (.decimal x)) (convert? (.decimal y))) :
    Option.Rel R (convert? p) (convert? q) := by
  rcases Payload.eq_or_decimal_of_canonical h with rfl | ⟨x, y, rfl, rfl, hxy⟩
  · cases convert? p with
    | none => exact .none
    | some x => exact .some (hR x)
  · exact hd x y hxy

/-- A reading that takes no decimal gives the same result. -/
theorem readAs_of_none (target : Target) {convert? : Payload → Option α}
    (h : v.canonical = w.canonical) (hd : ∀ d, convert? (.decimal d) = none) :
    Corresponds Eq (v.readAs target convert?) (w.readAs target convert?) := by
  apply readAs_of_canonical target h
  intro _
  apply convert_of_canonical (fun _ => rfl) (payload_of_canonical h)
  intro x y _
  rw [hd x, hd y]
  exact .none

/-- Values with one canonical form are read as one text. -/
theorem asString_of_canonical (h : v.canonical = w.canonical) :
    Corresponds Eq v.asString w.asString := by
  apply readAs_of_canonical .string h
  intro _
  apply convert_of_canonical (fun _ => rfl) (payload_of_canonical h)
  intro x y hxy
  have text : (Payload.decimal x).text = (Payload.decimal y).text := by
    rw [← Payload.text_canonical (.decimal x), Payload.canonical, hxy, ← Payload.canonical,
      Payload.text_canonical]
  exact .some text

/-- Values with one canonical form are read as one decimal number. -/
theorem asDecimal_of_canonical (h : v.canonical = w.canonical) :
    Corresponds (fun x y => x.value = y.value) v.asDecimal w.asDecimal := by
  apply readAs_of_canonical .decimal h
  intro _
  apply convert_of_canonical (fun x => Eq.refl x.value) (payload_of_canonical h)
  intro x y hxy
  exact .some (Payload.value_of_canonical hxy)

/-- A well-formed value that is not declared a decimal is the only one with its
canonical form. -/
theorem payload_eq_of_canonical (h : v.canonical = w.canonical)
    (hd : v.dataType ≠ .decimal) (hw : v.wellFormed = true) : v.payload = w.payload := by
  rcases Payload.eq_or_decimal_of_canonical (payload_of_canonical h) with
    same | ⟨x, y, hx, _, _⟩
  · exact same
  · unfold wellFormed at hw
    rw [hx] at hw
    cases ht : v.dataType with
    | decimal => exact absurd ht hd
    | _ =>
        rw [ht] at hw
        cases hw

/-- Values with one canonical form that are not declared decimals are read as one
double. -/
theorem asDouble_of_canonical (h : v.canonical = w.canonical)
    (hd : v.dataType ≠ .decimal) : Corresponds Eq v.asDouble w.asDouble := by
  apply readAs_of_canonical .double h
  intro hw
  rw [payload_eq_of_canonical h hd hw]
  cases Payload.asDouble? w.payload with
  | none => exact .none
  | some x => exact .some rfl

end TypedValue

/-- Readings that give related results, ordered alike, give one order. -/
theorem orderAs_related {read : TypedValue → Except FilterError α}
    {order : α → α → Option Ordering} (hl : Corresponds R (read a) (read a'))
    (hr : Corresponds R (read b) (read b'))
    (ho : ∀ x x' y y', R x x' → R y y' → order x y = order x' y') :
    Corresponds Eq (orderAs read order a b) (orderAs read order a' b') := by
  apply hl.bind
  intro x x' hx
  apply hr.bind
  intro y y' hy
  exact .ok (ho x x' y y' hx hy)

/-- Readings that give the same results give one order. -/
theorem orderAs_same {read : TypedValue → Except FilterError α}
    {order : α → α → Option Ordering} (hl : Corresponds Eq (read a) (read a'))
    (hr : Corresponds Eq (read b) (read b')) :
    Corresponds Eq (orderAs read order a b) (orderAs read order a' b') := by
  apply orderAs_related hl hr
  intro x x' y y' hx hy
  rw [hx, hy]

open TypedValue in
/-- Values with one canonical form have the same order through their pivot, or no
order at all. -/
theorem pivotOrder?_of_canonical (hl : a.canonical = a'.canonical)
    (hr : b.canonical = b'.canonical) :
    Option.Rel (Corresponds Eq) (pivotOrder? a b) (pivotOrder? a' b') := by
  have below : ∀ t : DataType, t.precedence ≤ DataType.double.precedence → t ≠ .decimal := by
    intro t ht same
    rw [same] at ht
    exact absurd ht (by decide)
  have left := DataType.precedence_le_pivot_left a.dataType b.dataType
  have right := DataType.precedence_le_pivot_right a.dataType b.dataType
  unfold pivotOrder?
  rw [← dataType_of_canonical hl, ← dataType_of_canonical hr]
  cases hp : DataType.pivot a.dataType b.dataType with
  | null => exact .none
  | boolean => exact .none
  | binary => exact .none
  | string =>
      exact .some (orderAs_same (asString_of_canonical hl) (asString_of_canonical hr))
  | short =>
      exact .some (orderAs_same (readAs_of_none .short hl fun _ => rfl)
        (readAs_of_none .short hr fun _ => rfl))
  | int =>
      exact .some (orderAs_same (readAs_of_none .int hl fun _ => rfl)
        (readAs_of_none .int hr fun _ => rfl))
  | long =>
      exact .some (orderAs_same (readAs_of_none .long hl fun _ => rfl)
        (readAs_of_none .long hr fun _ => rfl))
  | double =>
      rw [hp] at left right
      exact .some (orderAs_same (asDouble_of_canonical hl (below _ left))
        (asDouble_of_canonical hr (below _ right)))
  | decimal =>
      refine .some (orderAs_related (asDecimal_of_canonical hl) (asDecimal_of_canonical hr) ?_)
      intro x x' y y' hx hy
      rw [Decimal.compare_eq_compare_value, Decimal.compare_eq_compare_value, hx, hy]
  | date =>
      exact .some (orderAs_same (readAs_of_none .time hl fun _ => rfl)
        (readAs_of_none .time hr fun _ => rfl))
  | timestamp =>
      exact .some (orderAs_same (readAs_of_none .time hl fun _ => rfl)
        (readAs_of_none .time hr fun _ => rfl))

/-- A comparison of values with one canonical form has one outcome. -/
theorem compareValues_of_canonical (op : ComparisonOperator)
    (hl : a.canonical = a'.canonical) (hr : b.canonical = b'.canonical) :
    Corresponds Eq (compareValues op a b) (compareValues op a' b') := by
  have order := pivotOrder?_of_canonical hl hr
  unfold compareValues
  rw [← TypedValue.dataType_of_canonical hl, ← TypedValue.dataType_of_canonical hr]
  generalize pivotOrder? a b = x at order
  generalize pivotOrder? a' b' = y at order
  cases order with
  | none => exact .error rfl
  | some related =>
      apply related.map
      intro x y hxy
      rw [hxy]

/-- A comparison of operands with one canonical form has one outcome. -/
theorem comparisonHolds_of_canonical (op : ComparisonOperator)
    (hl : a.canonical = a'.canonical) (hr : b.canonical = b'.canonical) :
    Corresponds Eq (comparisonHolds op a b) (comparisonHolds op a' b') := by
  unfold comparisonHolds
  rw [← TypedValue.isNull_of_canonical hl, ← TypedValue.isNull_of_canonical hr]
  by_cases hn : (a.isNull || b.isNull) = true
  · rw [if_pos hn, if_pos hn]
    exact .ok rfl
  · rw [if_neg hn, if_neg hn]
    exact compareValues_of_canonical op hl hr

end ScanFilter
