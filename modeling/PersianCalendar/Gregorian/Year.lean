/-!
# Leap years and month lengths of the Gregorian calendar
-/

namespace PersianCalendar.Gregorian

/-- A year is leap when four divides it and a hundred does not, or four hundred does.  The rule is
applied to all years, zero and the negative ones included. -/
def IsLeapYear (year : Int) : Prop :=
  (year % 4 = 0 ∧ year % 100 ≠ 0) ∨ year % 400 = 0

instance (year : Int) : Decidable (IsLeapYear year) :=
  inferInstanceAs (Decidable (_ ∨ _))

/-- The lengths of the months January to December of a common year. -/
def monthLengths : List Int :=
  [31, 28, 31, 30, 31, 30, 31, 31, 30, 31, 30, 31]

/-- The number of days of month `month`, from 1 to 12, of a year. -/
def monthLength (year month : Int) : Int :=
  if month = 2 ∧ IsLeapYear year then 29 else monthLengths.getD (month - 1).toNat 0

theorem monthLength_bounds {year month : Int} (h : 1 ≤ month ∧ month ≤ 12) :
    28 ≤ monthLength year month ∧ monthLength year month ≤ 31 := by
  unfold monthLength
  split
  · omega
  · have hm : month = 1 ∨ month = 2 ∨ month = 3 ∨ month = 4 ∨ month = 5 ∨ month = 6 ∨ month = 7
        ∨ month = 8 ∨ month = 9 ∨ month = 10 ∨ month = 11 ∨ month = 12 := by omega
    rcases hm with rfl | rfl | rfl | rfl | rfl | rfl | rfl | rfl | rfl | rfl | rfl | rfl <;> decide

/-- The number of leap years after year 0 and up to `year`.  For a year before 0 it is minus the
number of leap years after it and up to 0, so that it grows by one at each leap year. -/
def leapYearsThrough (year : Int) : Int :=
  year / 4 - year / 100 + year / 400

theorem leapYearsThrough_add_one (year : Int) :
    leapYearsThrough (year + 1) =
      leapYearsThrough year + if IsLeapYear (year + 1) then 1 else 0 := by
  by_cases h : IsLeapYear (year + 1)
  all_goals
    simp only [h, if_true, if_false]
    unfold IsLeapYear at h
    unfold leapYearsThrough
    omega

end PersianCalendar.Gregorian
