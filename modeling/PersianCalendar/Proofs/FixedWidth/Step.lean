import Mathlib.Tactic.Lemma
import PersianCalendar.FixedWidth.Step

/-!
# Computations in which no step faults

The rules by which a computation with words is carried out when its results fit: a step that fits
gives its result, and a computation that has not faulted goes on with what it gave.  `Checked`
computations without a fault are those of the form `Checked.ofExcept r`, so that agreeing with an
exact computation `r` is an equation.
-/

namespace PersianCalendar.FixedWidth

variable {α β ε : Type}

lemma step64_eq {n : Int} (h1 : -9223372036854775808 ≤ n) (h2 : n ≤ 9223372036854775807) :
    step64 n = .ok n :=
  step_of_holds (⟨h1, h2⟩ : Width.signed64.Holds n)

lemma step32_eq {n : Int} (h1 : -2147483648 ≤ n) (h2 : n ≤ 2147483647) : step32 n = .ok n :=
  step_of_holds (⟨h1, h2⟩ : Width.signed32.Holds n)

lemma step8_eq {n : Int} (h1 : 0 ≤ n) (h2 : n ≤ 255) : step .unsigned8 n = .ok n :=
  step_of_holds (⟨h1, h2⟩ : Width.unsigned8.Holds n)

@[simp] lemma pure_eq_ok (a : α) : (pure a : Except ε α) = .ok a :=
  rfl

@[simp] lemma ok_bind (a : α) (f : α → Except ε β) : (Except.ok a >>= f) = f a :=
  rfl

namespace Checked

@[simp] lemma ofExcept_inj {r r' : Except ε α} : ofExcept r = ofExcept r' ↔ r = r' :=
  ⟨Except.ok.inj, congrArg ofExcept⟩

@[simp] lemma pure_eq_ofExcept (a : α) : (pure a : Checked ε α) = ofExcept (.ok a) :=
  rfl

/-- A part of a computation that gave a result without a fault. -/
@[simp] lemma lift_ok (a : α) :
    (liftM (Except.ok a : Except Fault α) : Checked ε α) = ofExcept (.ok a) :=
  rfl

lemma lift_ok_bind (a : α) (f : α → Checked ε β) :
    ((liftM (Except.ok a : Except Fault α) : Checked ε α) >>= f) = f a :=
  rfl

@[simp] lemma ofExcept_ok_bind (a : α) (f : α → Checked ε β) : (ofExcept (.ok a) >>= f) = f a :=
  rfl

/-- A computation without a fault goes on without one if it does so from each of its results. -/
lemma ofExcept_bind {r : Except ε α} {f : α → Checked ε β} {g : α → Except ε β}
    (h : ∀ a, r = .ok a → f a = ofExcept (g a)) : (ofExcept r >>= f) = ofExcept (r >>= g) := by
  cases r with
  | error e => rfl
  | ok a => exact h a rfl

@[simp] lemma map_ofExcept (f : α → β) (r : Except ε α) : f <$> ofExcept r = ofExcept (r.map f) := by
  cases r <;> rfl

@[simp] lemma adapt_ofExcept {ε' : Type} (f : ε → ε') (r : Except ε α) :
    (ofExcept r).adapt f = ofExcept (r.mapError f) := by
  cases r <;> rfl

end Checked

end PersianCalendar.FixedWidth
