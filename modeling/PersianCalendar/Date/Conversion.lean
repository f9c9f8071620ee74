import PersianCalendar.Date.DayNumber

/-!
# Conversion of fields

The fields of a date of one calendar are turned into the fields of the same day in the other one.
-/

namespace PersianCalendar.Ymd

/-- The Gregorian fields of the day with the given Jalali fields, which have to be those of a
date. -/
def toGregorian (f : Ymd) : Except DateError Ymd := do
  let d ← Date.ofYmd .jalali f
  return d.toGregorian.toYmd

/-- The Jalali fields of the day with the given Gregorian fields, which have to be those of a date
in a supported Jalali year. -/
def toJalali (f : Ymd) : Except DateError Ymd := do
  let d ← Date.ofYmd .gregorian f
  let e ← d.convert .jalali
  return e.toYmd

end PersianCalendar.Ymd
