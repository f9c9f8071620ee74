import Mathlib.Tactic.Lemma

/-!
# Computations that give a result

A computation that may be refused is taken apart from its end: where it gives a result, each of its
parts gave one, and where it is refused, the first of its parts that gave none was refused with the
same error.
-/

namespace PersianCalendar.Outcome

variable {α β ε ε' : Type}

@[simp] lemma bind_eq_ok {r : Except ε α} {f : α → Except ε β} {b : β} :
    (r >>= f) = .ok b ↔ ∃ a, r = .ok a ∧ f a = .ok b := by
  cases r with
  | error e =>
    constructor
    · rintro ⟨⟩
    · rintro ⟨a, ⟨⟩, -⟩
  | ok a =>
    constructor
    · intro h
      exact ⟨a, rfl, h⟩
    · rintro ⟨a, ⟨⟩, h⟩
      exact h

@[simp] lemma bind_eq_error {r : Except ε α} {f : α → Except ε β} {e : ε} :
    (r >>= f) = .error e ↔ r = .error e ∨ ∃ a, r = .ok a ∧ f a = .error e := by
  cases r with
  | error e' =>
    constructor
    · rintro ⟨⟩
      exact Or.inl rfl
    · rintro (⟨⟨⟩⟩ | ⟨a, ⟨⟩, -⟩)
      rfl
  | ok a =>
    constructor
    · intro h
      exact Or.inr ⟨a, rfl, h⟩
    · rintro (⟨⟨⟩⟩ | ⟨a, ⟨⟩, h⟩)
      exact h

@[simp] lemma map_eq_ok {r : Except ε α} {f : α → β} {b : β} :
    r.map f = .ok b ↔ ∃ a, r = .ok a ∧ f a = b := by
  cases r with
  | error e =>
    constructor
    · rintro ⟨⟩
    · rintro ⟨a, ⟨⟩, -⟩
  | ok a =>
    constructor
    · rintro ⟨⟩
      exact ⟨a, rfl, rfl⟩
    · rintro ⟨a, ⟨⟩, rfl⟩
      rfl

@[simp] lemma map_eq_error {r : Except ε α} {f : α → β} {e : ε} :
    r.map f = .error e ↔ r = .error e := by
  cases r with
  | error e' =>
    constructor
    · rintro ⟨⟩
      rfl
    · rintro ⟨⟩
      rfl
  | ok a =>
    constructor
    · rintro ⟨⟩
    · rintro ⟨⟩

@[simp] lemma mapError_eq_ok {r : Except ε α} {f : ε → ε'} {a : α} :
    r.mapError f = .ok a ↔ r = .ok a := by
  cases r with
  | error e =>
    constructor
    · rintro ⟨⟩
    · rintro ⟨⟩
  | ok a =>
    constructor
    · rintro ⟨⟩
      rfl
    · rintro ⟨⟩
      rfl

/-- A computation that can only be refused with one error is refused just when it gives no result. -/
lemma eq_error_iff_of_only {r : Except ε α} {e e' : ε} (honly : (∃ a, r = .ok a) ∨ r = .error e') :
    r = .error e ↔ (∀ a, r ≠ .ok a) ∧ e = e' := by
  rcases honly with ⟨a, rfl⟩ | rfl
  · constructor
    · rintro ⟨⟩
    · rintro ⟨hnone, -⟩
      exact absurd rfl (hnone a)
  · constructor
    · rintro ⟨⟩
      exact ⟨nofun, rfl⟩
    · rintro ⟨-, rfl⟩
      rfl

end PersianCalendar.Outcome
