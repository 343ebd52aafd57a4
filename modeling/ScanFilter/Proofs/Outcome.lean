/-!
# Results that may be errors

Two computations are **related** when both give values in a relation or both fail
with errors in a relation.  A computation that goes on from related results stays
related.

* `ok_bind`, `error_bind` — a computation goes on from a value and stops at an
  error;
* `map_eq_ok` — what is mapped to a value is a value;
* `Related.bind` — related computations in turn are related;
* `WhereBoth.bind` — computations that are related only where both give values.
-/

namespace ScanFilter.Outcome

variable {ε δ α β γ κ : Type}

/-- A computation goes on from a value. -/
@[simp] theorem ok_bind (a : α) (f : α → Except ε β) : (Except.ok a >>= f) = f a := rfl

/-- A computation stops at an error. -/
@[simp] theorem error_bind (e : ε) (f : α → Except ε β) :
    (Except.error e >>= f) = Except.error e := rfl

/-- What is mapped to a value is a value. -/
theorem map_eq_ok {f : α → β} {x : Except ε α} {b : β} (h : x.map f = .ok b) :
    ∃ a, x = .ok a ∧ b = f a := by
  cases x with
  | error e => cases h
  | ok a => exact ⟨a, rfl, (Except.ok.inj h).symm⟩

/-- Both results are values that are related, or both are errors that are
related. -/
inductive Related (E : ε → δ → Prop) (R : α → β → Prop) : Except ε α → Except δ β → Prop
  | ok {a : α} {b : β} (h : R a b) : Related E R (.ok a) (.ok b)
  | error {e : ε} {f : δ} (h : E e f) : Related E R (.error e) (.error f)

variable {E : ε → δ → Prop} {R : α → β → Prop} {S : γ → κ → Prop}
  {x : Except ε α} {y : Except δ β}

/-- Related computations in turn are related. -/
theorem Related.bind {f : α → Except ε γ} {g : β → Except δ κ} (h : Related E R x y)
    (hf : ∀ a b, R a b → Related E S (f a) (g b)) : Related E S (x >>= f) (y >>= g) := by
  cases h with
  | ok h => exact hf _ _ h
  | error h => exact .error h

/-- Related results stay related under related functions of their values. -/
theorem Related.map {f : α → γ} {g : β → κ} (h : Related E R x y)
    (hf : ∀ a b, R a b → S (f a) (g b)) : Related E S (x.map f) (y.map g) := by
  cases h with
  | ok h => exact .ok (hf _ _ h)
  | error h => exact .error h

/-- Results stay related when more values are. -/
theorem Related.mono {T : α → β → Prop} (h : Related E R x y) (hR : ∀ a b, R a b → T a b) :
    Related E T x y := by
  cases h with
  | ok h => exact .ok (hR _ _ h)
  | error h => exact .error h

/-- Equal results are related where the relations are reflexive. -/
theorem Related.refl {E : ε → ε → Prop} {R : α → α → Prop} (hE : ∀ e, E e e) (hR : ∀ a, R a a)
    (x : Except ε α) : Related E R x x := by
  cases x with
  | error e => exact .error (hE e)
  | ok a => exact .ok (hR a)

/-- The values of two computations are related, where both have one. -/
inductive WhereBoth (R : α → β → Prop) : Except ε α → Except δ β → Prop
  | ok {a : α} {b : β} (h : R a b) : WhereBoth R (.ok a) (.ok b)
  | left (e : ε) (y : Except δ β) : WhereBoth R (.error e) y
  | right (x : Except ε α) (e : δ) : WhereBoth R x (.error e)

/-- Computations in turn have related values, where both have one. -/
theorem WhereBoth.bind {f : α → Except ε γ} {g : β → Except δ κ} (h : WhereBoth R x y)
    (hf : ∀ a b, R a b → WhereBoth S (f a) (g b)) : WhereBoth S (x >>= f) (y >>= g) := by
  cases h with
  | ok h => exact hf _ _ h
  | left e y => exact .left e _
  | right x e => exact .right _ e

/-- Values stay related when more of them are. -/
theorem WhereBoth.mono {T : α → β → Prop} (h : WhereBoth R x y) (hR : ∀ a b, R a b → T a b) :
    WhereBoth T x y := by
  cases h with
  | ok h => exact .ok (hR _ _ h)
  | left e y => exact .left e y
  | right x e => exact .right x e

/-- A value that is related to every other one is related to that of any computation. -/
theorem whereBoth_of_forall {a : α} (h : ∀ b, R a b) (y : Except δ β) :
    WhereBoth R (.ok a : Except ε α) y := by
  cases y with
  | error e => exact .right _ e
  | ok b => exact .ok (h b)

end ScanFilter.Outcome
