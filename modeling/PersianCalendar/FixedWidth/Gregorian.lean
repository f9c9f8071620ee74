import PersianCalendar.Calendar
import PersianCalendar.FixedWidth.Step
import PersianCalendar.Gregorian.Year

/-!
# Gregorian day numbers with words of 64 bits

The steps are ordered so that `dayNumber` adds from left to right: the day, the days of the months,
the days of the years.  `ofDayNumber` starts with a sum that does not fit for the last day numbers
of the word; `ofDayNumber?` answers with nothing there.
-/

namespace PersianCalendar.FixedWidth.Gregorian

/-- The day number of a year, month and day. -/
def dayNumber (year month day : Int) : Except Fault Int := do
  let carry := (← step64 (14 - month)) / 12
  let year ← step64 ((← step64 (year + 4800)) - carry)
  let month ← step64 ((← step64 (month + (← step64 (12 * carry)))) - 3)
  let monthDays := (← step64 ((← step64 (153 * month)) + 2)) / 5
  let sum ← step64 (day + monthDays)
  let sum ← step64 (sum + (← step64 (365 * year)))
  let sum ← step64 (sum + year / 4)
  let sum ← step64 (sum - year / 100)
  let sum ← step64 (sum + year / 400)
  step64 (sum - 32045)

/-- The days by which day numbers are moved before they are split into cycles. -/
def shift : Int := 32044

/-- Three quarters of a number of parts that is one too great, rounded down. -/
def threeQuarters (parts : Int) : Except Fault Int := do
  return (← step64 ((← step64 (parts + 1)) * 3)) / 4

/-- The year, month and day of a day number. -/
def ofDayNumber (n : Int) : Except Fault Ymd := do
  let days ← step64 (n + shift)
  let cycles := days / 146097
  let inCycle := days % 146097
  let centuries ← threeQuarters (inCycle / 36524)
  let inCentury ← step64 (inCycle - (← step64 (centuries * 36524)))
  let fours := inCentury / 1461
  let inFour := inCentury % 1461
  let years ← threeQuarters (inFour / 365)
  let inYear ← step64 (inFour - (← step64 (years * 365)))
  let year ← step64 ((← step64 (cycles * 400)) + (← step64 (centuries * 100)))
  let year ← step64 ((← step64 (year + (← step64 (fours * 4)))) + years)
  let month ← step64 ((← step64 ((← step64 (5 * inYear)) + 308)) / 153 - 2)
  let monthDays := (← step64 ((← step64 (month + 4)) * 153)) / 5
  let day ← step64 ((← step64 (inYear - monthDays)) + 122)
  let later ← step64 (month + 2)
  return { year := ← step64 ((← step64 (year - 4800)) + later / 12)
           month := ← step64 (later % 12 + 1)
           day := ← step64 (day + 1) }

/-- The year, month and day of a day number, or nothing where the first sum does not fit. -/
def ofDayNumber? (n : Int) : Except Fault (Option Ymd) := do
  if n > Width.signed64.greatest - shift then return none
  return some (← ofDayNumber n)

/-- The number of days of a month, which has to be one from 1 to 12. -/
def monthLength (year month : Int) : Except Fault Int :=
  if month = 0 ∨ 12 < month then .error .noSuchMonth
  else if month = 2 ∧ Gregorian.IsLeapYear year then .ok 29
  else item Gregorian.monthLengths (month - 1)

end PersianCalendar.FixedWidth.Gregorian
