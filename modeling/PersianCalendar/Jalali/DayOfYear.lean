import PersianCalendar.Jalali.YearStart

/-!
# Months and days of the Jalali year

Months 1 to 6 have 31 days, months 7 to 11 have 30, and month 12 has 30 in a leap year and 29
otherwise.  `dayOfYear` counts the days of a year from 0 and `monthDay` undoes it.
-/

namespace PersianCalendar.Jalali

/-- The number of days of month `month`, from 1 to 12, of a leap or a common year. -/
def monthLength (isLeap : Bool) (month : Int) : Int :=
  if month ≤ 6 then 31 else if month < 12 then 30 else if isLeap then 30 else 29

/-- The days of the first six months. -/
def firstHalfDays : Int := 186

/-- The days from the first day of a year to a month and day of it: 31 for each month before, less
one for each of them after the sixth.  The month and the day are unrestricted; outside 1 to 12 the
count goes on by the same formula. -/
def dayOfYear (month day : Int) : Int :=
  (month - 1) * 31 - month / 7 * (month - 7) + day - 1

/-- The month and the day of month of the day that comes `days` days after the first of a year. -/
def monthDay (days : Int) : Int × Int :=
  if days < firstHalfDays then (1 + days / 31, days % 31 + 1)
  else (7 + (days - firstHalfDays) / 30, (days - firstHalfDays) % 30 + 1)

theorem monthLength_bounds (isLeap : Bool) (month : Int) :
    29 ≤ monthLength isLeap month ∧ monthLength isLeap month ≤ 31 := by
  unfold monthLength
  split
  · omega
  · split
    · omega
    · cases isLeap <;> decide

/-- The number of days of a month of a year.  A month that no year has is refused before the year is
looked at. -/
def daysInMonth (year month : Int) : Except DateError Int :=
  if 1 ≤ month ∧ month ≤ 12 then
    (YearStart.ofYear year).map fun start => monthLength start.isLeap month
  else .error (.noSuchDate .jalali ⟨year, month, 1⟩)

/-- The day number of a year, month and day, of which only the year is looked at. -/
def dayNumber (year month day : Int) : Except DateError Int :=
  (YearStart.ofYear year).map fun start => start.dayNumber + dayOfYear month day

end PersianCalendar.Jalali
