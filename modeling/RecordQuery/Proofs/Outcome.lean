/-!
# Steps that may fail

A computation built from steps succeeds exactly if each step does.
-/

namespace RecordQuery

section
variable {ε ε' α β : Type}

theorem bind_eq_ok_iff {x : Except ε α} {f : α → Except ε β} {b : β} :
    (x >>= f) = .ok b ↔ ∃ a, x = .ok a ∧ f a = .ok b := by
  cases x with
  | error e => simp [bind, Except.bind]
  | ok a => simp [bind, Except.bind]

theorem bind_eq_error_iff {x : Except ε α} {f : α → Except ε β} {e : ε} :
    (x >>= f) = .error e ↔ x = .error e ∨ ∃ a, x = .ok a ∧ f a = .error e := by
  cases x with
  | error e' => simp [bind, Except.bind]
  | ok a => simp [bind, Except.bind]

theorem map_eq_ok_iff {x : Except ε α} {f : α → β} {b : β} :
    x.map f = .ok b ↔ ∃ a, x = .ok a ∧ f a = b := by
  cases x with
  | error e => simp [Except.map]
  | ok a => simp [Except.map]

theorem mapError_eq_ok_iff {x : Except ε α} {f : ε → ε'} {a : α} :
    x.mapError f = .ok a ↔ x = .ok a := by
  cases x with
  | error e =>
    change Except.error (f e) = .ok a ↔ Except.error e = .ok a
    simp
  | ok b =>
    change Except.ok b = .ok a ↔ Except.ok b = .ok a
    simp

theorem mapError_eq_error_iff {x : Except ε α} {f : ε → ε'} {e' : ε'} :
    x.mapError f = .error e' ↔ ∃ e, x = .error e ∧ f e = e' := by
  cases x with
  | error e =>
    change Except.error (f e) = .error e' ↔ ∃ e₀, Except.error e = .error e₀ ∧ f e₀ = e'
    simp
  | ok a =>
    change Except.ok a = .error e' ↔ ∃ e₀, Except.ok a = .error e₀ ∧ f e₀ = e'
    simp

theorem toOption_eq_some_iff {x : Except ε α} {a : α} : x.toOption = some a ↔ x = .ok a := by
  cases x with
  | error e => simp [Except.toOption]
  | ok a => simp [Except.toOption]

/-- The error of a step that fails. -/
def failureOf : Except ε α → Option ε
  | .error e => some e
  | .ok _ => none

theorem failureOf_eq_some_iff {x : Except ε α} {e : ε} : failureOf x = some e ↔ x = .error e := by
  cases x with
  | error e' => simp [failureOf]
  | ok a => simp [failureOf]

theorem failureOf_eq_none_iff {x : Except ε α} : failureOf x = none ↔ ∃ a, x = .ok a := by
  cases x with
  | error e => simp [failureOf]
  | ok a => simp [failureOf]

/-- Both fail with one error, or both succeed with related results. -/
inductive SameOutcome (R : α → α → Prop) : Except ε α → Except ε α → Prop
  | failed (e : ε) : SameOutcome R (.error e) (.error e)
  | succeeded {a b : α} (h : R a b) : SameOutcome R (.ok a) (.ok b)

namespace SameOutcome

variable {R : α → α → Prop} {S : β → β → Prop}

theorem bind {x y : Except ε α} {f g : α → Except ε β} (h : SameOutcome R x y)
    (next : ∀ a b, R a b → SameOutcome S (f a) (g b)) : SameOutcome S (x >>= f) (y >>= g) := by
  cases h with
  | failed e => exact .failed e
  | succeeded h => exact next _ _ h

/-- After a step that is the same in both. -/
theorem after (x : Except ε α) {f g : α → Except ε β}
    (next : ∀ a, x = .ok a → SameOutcome S (f a) (g a)) : SameOutcome S (x >>= f) (x >>= g) := by
  cases x with
  | error e => exact .failed e
  | ok a => exact next a rfl

theorem map {x y : Except ε α} {f g : α → β} (h : SameOutcome R x y)
    (next : ∀ a b, R a b → S (f a) (g b)) : SameOutcome S (x.map f) (y.map g) := by
  cases h with
  | failed e => exact .failed e
  | succeeded h => exact .succeeded (next _ _ h)

/-- One result, taken further in two ways. -/
theorem map_same (x : Except ε α) {f g : α → β} (next : ∀ a, x = .ok a → S (f a) (g a)) :
    SameOutcome S (x.map f) (x.map g) := by
  cases x with
  | error e => exact .failed e
  | ok a => exact .succeeded (next a rfl)

theorem imp {R' : α → α → Prop} {x y : Except ε α} (h : SameOutcome R x y)
    (next : ∀ a b, x = .ok a → y = .ok b → R a b → R' a b) : SameOutcome R' x y := by
  cases h with
  | failed e => exact .failed e
  | succeeded h => exact .succeeded (next _ _ rfl rfl h)

theorem mapError {x y : Except ε α} (h : SameOutcome R x y) (f : ε → ε') :
    SameOutcome R (x.mapError f) (y.mapError f) := by
  cases h with
  | failed e => exact .failed (f e)
  | succeeded h => exact .succeeded h

end SameOutcome

end

end RecordQuery
