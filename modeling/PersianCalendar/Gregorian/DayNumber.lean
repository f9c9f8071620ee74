import PersianCalendar.Calendar
import PersianCalendar.Gregorian.Year

/-!
# Day numbers of Gregorian dates

Days are counted by the Julian day number: day 0 is 24 November of the year −4713.  Counting years
from March puts the leap day at the end of the counted year, so that the days before a month do not
depend on the year: `dayNumber` adds the days of the whole years, the days of the whole months and
the day.  `ofDayNumber` undoes it, taking out cycles of 400, 100, 4 and 1 years in turn.

Neither looks whether a date exists.  A month outside 1 to 12 is carried over into the year, and a
day outside its month is counted on from the first.
-/

namespace PersianCalendar.Gregorian

/-- The days of the months from March to the month before the `month`-th, where March has number 0:
the lengths 31, 30, 31, 30, 31 repeat every five months. -/
def daysBeforeMonth (month : Int) : Int :=
  (153 * month + 2) / 5

/-- The days from 1 March of year −4800 to 1 March of `year`. -/
def daysBeforeMarch (year : Int) : Int :=
  365 * (year + 4800) + leapYearsThrough (year + 4800)

/-- The day number of 29 February of the year −4800, the day before the count of `daysBeforeMarch`
starts. -/
def countOrigin : Int := -32045

/-- The day number of a year, month and day, all three unrestricted. -/
def dayNumber (year month day : Int) : Int :=
  let month := month - 3
  daysBeforeMarch (year + month / 12) + daysBeforeMonth (month % 12) + day + countOrigin

theorem dayNumber_add_day (year month day k : Int) :
    dayNumber year month (day + k) = dayNumber year month day + k := by
  simp only [dayNumber]
  omega

/-- Twelve months make a year, whichever months they are. -/
theorem dayNumber_add_year (year month day k : Int) :
    dayNumber (year + k) month day = dayNumber year (month + 12 * k) day := by
  simp only [dayNumber]
  have hdiv : (month + 12 * k - 3) / 12 = (month - 3) / 12 + k := by omega
  have hmod : (month + 12 * k - 3) % 12 = (month - 3) % 12 := by omega
  rw [hdiv, hmod, Int.add_assoc year k, Int.add_comm k]

/-- The days of 400 years. -/
def daysOf400 : Int := 146097

/-- The days of 100 years that do not end in a leap year divisible by 400. -/
def daysOf100 : Int := 36524

/-- The days of 4 years that end in a leap year. -/
def daysOf4 : Int := 1461

/-- The days of a common year. -/
def daysOf1 : Int := 365

/-- Splits the days since the start of a cycle into whole parts of `length` days, of which there are
four, and the days of the part that is not over.  The last part may be a day longer than the others,
which is why the count stops at three. -/
def quarter (length days : Int) : Int × Int :=
  let parts := min (days / length) 3
  (parts, days - parts * length)

/-- The year, month and day of a day number. -/
def ofDayNumber (n : Int) : Ymd :=
  let days := n - (countOrigin + 1)
  let (centuries, inCentury) := quarter daysOf100 (days % daysOf400)
  let (years, inYear) := quarter daysOf1 (inCentury % daysOf4)
  let year := 400 * (days / daysOf400) + 100 * centuries + 4 * (inCentury / daysOf4) + years - 4800
  let month := (5 * inYear + 2) / 153
  { year := year + (month + 2) / 12
    month := (month + 2) % 12 + 1
    day := inYear - daysBeforeMonth month + 1 }

end PersianCalendar.Gregorian
