/-!
# Widths of whole numbers

Dates and day numbers are computed with exact integers; a width says which of them a field or a
result may hold.  The bounds are part of what the library answers: a year of the Gregorian calendar
is a signed number of 32 bits, a day number one of 64, and a day count that leaves 64 bits is
refused.
-/

namespace PersianCalendar

/-- The ranges that whole numbers are confined to. -/
inductive Width where
  /-- Months and days: from 0 to 255. -/
  | unsigned8
  /-- Days of a year: from 0 to 65535. -/
  | unsigned16
  /-- Years, and numerals as they are typed. -/
  | signed32
  /-- Day numbers and differences of day numbers. -/
  | signed64
deriving DecidableEq, Repr

namespace Width

/-- The least number of a width. -/
def least : Width → Int
  | unsigned8 => 0
  | unsigned16 => 0
  | signed32 => -2147483648
  | signed64 => -9223372036854775808

/-- The greatest number of a width. -/
def greatest : Width → Int
  | unsigned8 => 255
  | unsigned16 => 65535
  | signed32 => 2147483647
  | signed64 => 9223372036854775807

/-- The numbers that fit in a width. -/
def Holds (w : Width) (n : Int) : Prop :=
  w.least ≤ n ∧ n ≤ w.greatest

instance (w : Width) (n : Int) : Decidable (w.Holds n) :=
  inferInstanceAs (Decidable (_ ∧ _))

@[simp] theorem holds_unsigned8 {n : Int} : unsigned8.Holds n ↔ 0 ≤ n ∧ n ≤ 255 := Iff.rfl

@[simp] theorem holds_signed32 {n : Int} :
    signed32.Holds n ↔ -2147483648 ≤ n ∧ n ≤ 2147483647 := Iff.rfl

@[simp] theorem holds_signed64 {n : Int} :
    signed64.Holds n ↔ -9223372036854775808 ≤ n ∧ n ≤ 9223372036854775807 := Iff.rfl

/-- The number of the width nearest to `n`. -/
def clamp (w : Width) (n : Int) : Int :=
  max w.least (min n w.greatest)

/-- The bound of the width on the side where `n` lies from zero. -/
def bound (w : Width) (n : Int) : Int :=
  if n < 0 then w.least else w.greatest

@[simp] theorem holds_clamp (w : Width) (n : Int) : w.Holds (w.clamp n) := by
  cases w <;> simp only [Holds, clamp, least, greatest] <;> omega

end Width

end PersianCalendar
