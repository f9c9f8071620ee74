import PersianCalendar.Date.AnyDate
import PersianCalendar.FixedWidth.Jalali

/-!
# Dates with words of fixed width

Years are kept in words of 32 bits, months and days in words of 8 bits.  Where a field is moved to a
narrower word, the move is a step of that width.
-/

namespace PersianCalendar.FixedWidth.Date

open PersianCalendar (Date)

variable {c : Calendar}

/-- Builds a date from fields of which the month and the day have 8 bits. -/
def ofNarrowFields : (c : Calendar) → Ymd → Checked DateError (Date c)
  | .jalali, f => do
    let start ← Jalali.yearStart f.year
    if f.month = 0 ∨ 12 < f.month then throw (.noSuchDate .jalali f)
    if f.day < 1 ∨ (← Jalali.monthLength start.isLeap f.month) < f.day then
      throw (.noSuchDate .jalali f)
    return ⟨f⟩
  | .gregorian, f => do
    if f.month = 0 ∨ 12 < f.month ∨ f.day < 1 then throw (.noSuchDate .gregorian f)
    if (← Gregorian.monthLength f.year f.month) < f.day then throw (.noSuchDate .gregorian f)
    return ⟨f⟩

/-- Builds a date from its fields. -/
def ofYmd (c : Calendar) (f : Ymd) : Checked DateError (Date c) :=
  if ¬(Width.unsigned8.Holds f.month ∧ Width.unsigned8.Holds f.day) then
    throw (.noSuchDate c f)
  else ofNarrowFields c f

/-- Moves the month and the day of a date to words of 8 bits. -/
def narrow (f : Ymd) : Except Fault Ymd := do
  return ⟨f.year, ← step .unsigned8 f.month, ← step .unsigned8 f.day⟩

/-- The date of a day number. -/
def ofDayNumber : (c : Calendar) → Int → Checked DateError (Date c)
  | .jalali, n => do
    let f ← Jalali.ofDayNumber n
    return ⟨← narrow f⟩
  | .gregorian, n => do
    let some f ← Gregorian.ofDayNumber? n | throw (.unsupportedYear (Width.signed64.bound n))
    if ¬Width.signed32.Holds f.year then throw (.unsupportedYear f.year)
    return ⟨← narrow f⟩

/-- The day number of a date. -/
def dayNumber : {c : Calendar} → Date c → Except Fault Int
  | .jalali, d => do
    let first ← Jalali.firstDay (← Jalali.approximateYearStart d.year)
    step64 (first + (← Jalali.dayOfYear d.month d.day))
  | .gregorian, d => Gregorian.dayNumber d.year d.month d.day

/-- The date of the same day in a calendar. -/
def convert (d : Date c) (target : Calendar) : Checked DateError (Date target) := do
  ofDayNumber target (← dayNumber d)

/-- The Gregorian date of the same day as a Jalali date. -/
def toGregorian (d : Date .jalali) : Except Fault (Date .gregorian) := do
  let f ← Gregorian.ofDayNumber (← dayNumber d)
  return ⟨← narrow { f with year := ← step32 f.year }⟩

/-- Moves a date by a number of days. -/
def addDays (d : Date c) (days : Int) : Checked DateError (Date c) := do
  let n := (← dayNumber d) + days
  if ¬Width.signed64.Holds n then throw (.unsupportedYear (Width.signed64.bound days))
  ofDayNumber c n

/-- The number of days from a date to another one. -/
def daysUntil (d e : Date c) : Except Fault Int := do
  step64 ((← dayNumber e) - (← dayNumber d))

/-- The day of the year, 1 for the first, in a word of 16 bits. -/
def ordinal (d : Date .jalali) : Except Fault Int := do
  step .unsigned16 ((← step .unsigned16 (← Jalali.dayOfYear d.month d.day)) + 1)

/-- The Gregorian fields of the day with the given Jalali fields. -/
def gregorianFields (f : Ymd) : Checked DateError Ymd := do
  let d ← toGregorian (← ofYmd .jalali f)
  return d.toYmd

/-- The Jalali fields of the day with the given Gregorian fields. -/
def jalaliFields (f : Ymd) : Checked DateError Ymd := do
  let d ← convert (← ofYmd .gregorian f) .jalali
  return d.toYmd

end PersianCalendar.FixedWidth.Date
