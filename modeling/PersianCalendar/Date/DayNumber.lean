import PersianCalendar.Date.Basic

/-!
# Dates and day numbers

A day number counts days in both calendars alike, so it is the meeting point of the two: a date is
converted by way of its day number, and moved by adding to it.

Main definitions: `Date.dayNumber` and its inverse `Date.ofDayNumber`; `Date.convert` to the other
calendar; `Date.addDays` and `Date.daysUntil`.
-/

namespace PersianCalendar

namespace Calendar

/-- The day number of fields of a calendar, which need not be a date.  Outside the supported Jalali
years the start of the year is an approximation. -/
def dayNumber : Calendar → Ymd → Int
  | jalali, f => (Jalali.YearStart.approximate f.year).dayNumber + Jalali.dayOfYear f.month f.day
  | gregorian, f => Gregorian.dayNumber f.year f.month f.day

end Calendar

/-- The greatest day number whose Gregorian date is looked for; the days of a cycle are counted from
a day before day 0, and that count has to fit in 64 bits. -/
def lastDayNumber : Int :=
  Width.signed64.greatest + (Gregorian.countOrigin + 1)

namespace Gregorian

/-- The Gregorian fields of a day number.  A day number too great to be split into cycles is refused
with the greatest number for its year. -/
def fieldsOfDay (n : Int) : Except DateError Ymd :=
  if lastDayNumber < n then .error (.unsupportedYear Width.signed64.greatest)
  else .ok (ofDayNumber n)

end Gregorian

namespace Jalali

/-- The Jalali year that starts in a Gregorian year.  In place of the first year after the supported
ones stands the last of them, which still goes on in the first months of that Gregorian year. -/
def yearStarting (gregorianYear : Int) : Int :=
  let year := gregorianYear - yearOffset
  if year = lastYear + 1 then lastYear else year

/-- The fields of a day in a year that starts on that day or before it.  A day after the end of the
year is refused. -/
def fieldsInYear (year n : Int) : Except DateError Ymd := do
  let start ← YearStart.ofYear year
  let days := n - start.dayNumber
  if days < start.length then return ⟨year, (monthDay days).1, (monthDay days).2⟩
  else throw (.unsupportedYear (year + 1))

/-- The Jalali fields of a day number.  A day before the first of the year that starts in its
Gregorian year belongs to the year before. -/
def fieldsOfDay (n : Int) : Except DateError Ymd := do
  let f ← Gregorian.fieldsOfDay n
  let year := yearStarting f.year
  let start ← YearStart.ofYear year
  if n < start.dayNumber then fieldsInYear (year - 1) n else fieldsInYear year n

end Jalali

namespace Date

variable {c : Calendar}

/-- The day number of a date. -/
def dayNumber (d : Date c) : Int := c.dayNumber d.toYmd

/-- The date of a day number.  A day outside the supported years of the calendar is refused, with
the year in which it would lie. -/
def ofDayNumber : (c : Calendar) → Int → Except DateError (Date c)
  | .jalali, n => do return ⟨← Jalali.fieldsOfDay n⟩
  | .gregorian, n => do
    let f ← Gregorian.fieldsOfDay n
    if Calendar.gregorian.Supports f.year then return ⟨f⟩ else throw (.unsupportedYear f.year)

/-- The date of the same day in a calendar. -/
def convert (d : Date c) (target : Calendar) : Except DateError (Date target) :=
  ofDayNumber target d.dayNumber

/-- The Gregorian date of the same day as a Jalali date.  Every Jalali day has one, so nothing is
refused. -/
def toGregorian (d : Date .jalali) : Date .gregorian :=
  ⟨Gregorian.ofDayNumber d.dayNumber⟩

/-- Moves a date by a number of days, back when it is negative.  A day number that does not fit in
64 bits is refused with the bound of the width on its side for a year. -/
def addDays (d : Date c) (days : Int) : Except DateError (Date c) :=
  let n := d.dayNumber + days
  if Width.signed64.Holds n then ofDayNumber c n
  else .error (.unsupportedYear (Width.signed64.bound days))

/-- The number of days from a date to another one, negative when the other is earlier. -/
def daysUntil (d e : Date c) : Int := e.dayNumber - d.dayNumber

/-- The day of the year, 1 for the first. -/
def ordinal (d : Date .jalali) : Int := Jalali.dayOfYear d.month d.day + 1

end Date

end PersianCalendar
