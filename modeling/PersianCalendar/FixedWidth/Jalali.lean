import PersianCalendar.FixedWidth.Gregorian
import PersianCalendar.Jalali.DayOfYear

/-!
# Jalali years with words of 32 and 64 bits

The start of a year is found with words of 32 bits, in one walk over the breaks; day numbers have
64 bits.
-/

namespace PersianCalendar.FixedWidth.Jalali

open PersianCalendar.Jalali (YearStart breaks yearOffset firstHalfDays)

/-- Where the walk over the breaks stops: at the run of the year that is looked for. -/
structure Position where
  /-- The first year of the run. -/
  first : Int
  /-- The number of years of the run. -/
  length : Int
  /-- The leap years counted so far. -/
  leaps : Int
deriving DecidableEq, Repr

/-- The leap years of whole cycles of 33 years, and of what is left when `late` years are added to
it. -/
def leapsOf (years late : Int) : Except Fault Int := do
  step32 ((← step32 (years / 33 * 8)) + (← step32 (years % 33 + late)) / 4)

/-- Walks over the breaks after `first` up to the run of a year. -/
def positionFrom (year first length leaps : Int) : List Int → Except Fault Position
  | [] => .ok ⟨first, length, leaps⟩
  | next :: later => do
    let length ← step32 (next - first)
    if year < next then return ⟨first, length, leaps⟩
    positionFrom year next length (← step32 (leaps + (← leapsOf length 0))) later

/-- The place of a year in its cycle, counted back from the end of its run in the last years. -/
def placeOf (w : Position) (years : Int) : Except Fault Int := do
  if (← step32 (w.length - years)) < 6 then
    let cycles ← step32 ((← step32 (w.length + 4)) / 33 * 33)
    step32 ((← step32 (years - w.length)) + cycles)
  else return years

/-- The start of a year that lies in a run. -/
def supportedYearStart (year : Int) : Except Fault YearStart := do
  let gregorianYear ← step32 (year + yearOffset)
  let first ← item breaks 0
  let w ← positionFrom year first 0 (-14) breaks.tail
  let years ← step32 (year - w.first)
  let leaps ← step32 (w.leaps + (← leapsOf years 3))
  let left ← step32 (w.length - years)
  let leaps ← if w.length % 33 = 4 ∧ left = 4 then step32 (leaps + 1) else pure leaps
  let centuries ← step32 ((← step32 ((← step32 (gregorianYear / 100 + 1)) * 3)) / 4)
  let gregorianLeaps ← step32 ((← step32 (gregorianYear / 4 - centuries)) - 150)
  let marchDay ← step32 ((← step32 (20 + leaps)) - gregorianLeaps)
  let place ← step32 ((← step32 ((← placeOf w years) + 1)) % 33 - 1)
  return { gregorianYear, marchDay, isLeap := place % 4 = 0 }

/-- The start of a year. -/
def yearStart (year : Int) : Checked DateError YearStart := do
  if PersianCalendar.Jalali.Supported year then supportedYearStart year
  else throw (.unsupportedYear year)

/-- The start of a year, or its approximation outside all runs. -/
def approximateYearStart (year : Int) : Except Fault YearStart := do
  match ← (yearStart year).run with
  | .ok start => return start
  | .error _ => return ⟨Width.signed32.clamp (year + yearOffset), 20, false⟩

/-- The day number of the first day of a year. -/
def firstDay (start : YearStart) : Except Fault Int :=
  Gregorian.dayNumber start.gregorianYear 3 start.marchDay

/-- The days from the first day of a year to a month and day. -/
def dayOfYear (month day : Int) : Except Fault Int := do
  let plain ← step64 ((← step64 (month - 1)) * 31)
  let short ← step64 (month / 7 * (← step64 (month - 7)))
  step64 ((← step64 ((← step64 (plain - short)) + day)) - 1)

/-- The number of days of a month of a leap or a common year. -/
def monthLength (isLeap : Bool) (month : Int) : Except Fault Int :=
  if month = 0 ∨ 12 < month then .error .noSuchMonth
  else .ok (PersianCalendar.Jalali.monthLength isLeap month)

/-- The day number of a year, month and day, of which only the year is looked at. -/
def dayNumber (year month day : Int) : Checked DateError Int := do
  let start ← yearStart year
  step64 ((← firstDay start) + (← dayOfYear month day))

/-- The year that starts in a Gregorian year.  Where that is the first year after all runs, the year
before it is tried, to which the first months of the Gregorian year still belong. -/
def candidateYear (gregorianYear : Int) : Checked DateError Int := do
  let year ← step64 (gregorianYear - yearOffset)
  if ¬Width.signed32.Holds year then throw (.unsupportedYear year)
  let before := year - 1
  if ¬PersianCalendar.Jalali.Supported year ∧ Width.signed32.Holds before
      ∧ PersianCalendar.Jalali.Supported before then
    return before
  return year

/-- The fields of the day that comes `days` days after the first of a year.  A day after the end of
the year is refused. -/
def fieldsAfter (year : Int) (isLeap : Bool) (days : Int) : Checked DateError Ymd := do
  if days ≥ (← step64 (365 + if isLeap then 1 else 0)) then
    throw (.unsupportedYear (← step64 (year + 1)))
  if days < firstHalfDays then
    let month ← step32 (← step64 (1 + days / 31))
    return ⟨year, month, ← step32 (← step64 (days % 31 + 1))⟩
  else
    let days ← step64 (days - firstHalfDays)
    let month ← step32 (← step64 (7 + days / 30))
    return ⟨year, month, ← step32 (← step64 (days % 30 + 1))⟩

/-- The year, month and day of a day number. -/
def ofDayNumber (n : Int) : Checked DateError Ymd := do
  let some ymd ← Gregorian.ofDayNumber? n | throw (.unsupportedYear (Width.signed64.bound n))
  let year ← candidateYear ymd.year
  let start ← yearStart year
  let first ← firstDay start
  if n < first then
    let year ← step32 (year - 1)
    let start ← yearStart year
    fieldsAfter year start.isLeap (← step64 (n - (← firstDay start)))
  else fieldsAfter year start.isLeap (← step64 (n - first))

end PersianCalendar.FixedWidth.Jalali
