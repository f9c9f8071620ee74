import PersianCalendar.Width

/-!
# Arithmetic a step at a time

The calendar is computed with exact integers.  The modules under `FixedWidth` carry out the same
computations the way a machine with words of fixed width does: every sum, difference and product is
a step, and a step whose result does not fit in its word is a fault.  Where no step faults, both
computations agree.
-/

namespace PersianCalendar.FixedWidth

/-- What can go wrong in a computation with words. -/
inductive Fault where
  /-- A result does not fit in a word of the width. -/
  | overflow (width : Width)
  /-- The length of a month was asked for that no year has. -/
  | noSuchMonth
  /-- A place outside a table was looked up. -/
  | outsideTable
deriving DecidableEq, Repr

/-- Keeps the result of a step if it fits in a word. -/
def step (width : Width) (result : Int) : Except Fault Int :=
  if width.Holds result then .ok result else .error (.overflow width)

/-- A step with words of 32 bits. -/
abbrev step32 (result : Int) : Except Fault Int := step .signed32 result

/-- A step with words of 64 bits. -/
abbrev step64 (result : Int) : Except Fault Int := step .signed64 result

/-- The item at a place of a table. -/
def item (table : List α) (place : Int) : Except Fault α :=
  if place < 0 then .error .outsideTable
  else match table[place.toNat]? with
    | some a => .ok a
    | none => .error .outsideTable

/-- A computation that may refuse its input with an error of type `ε`, or fault. -/
abbrev Checked (ε : Type) : Type → Type := ExceptT ε (Except Fault)

/-- A computation without steps, which does not fault. -/
def Checked.ofExcept (r : Except ε α) : Checked ε α := ExceptT.mk (.ok r)

variable {width : Width} {n : Int}

theorem step_of_holds (h : width.Holds n) : step width n = .ok n := if_pos h

theorem step_of_not_holds (h : ¬width.Holds n) : step width n = .error (.overflow width) :=
  if_neg h

@[simp] theorem step_eq_ok_iff {m : Int} : step width n = .ok m ↔ width.Holds n ∧ n = m := by
  unfold step
  split <;> simp_all

end PersianCalendar.FixedWidth
