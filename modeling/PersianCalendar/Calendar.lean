/-!
# Calendars and date fields

The two calendars, and the bare triple of integers that stands in the places of a year, a month and
a day before anything is known about it.
-/

namespace PersianCalendar

/-- The calendars of the library. -/
inductive Calendar where
  /-- The solar calendar of Iran, with year 1 in 622. -/
  | jalali
  /-- The Gregorian calendar, extended to all years. -/
  | gregorian
deriving DecidableEq, Repr

namespace Calendar

/-- The name of a calendar in English. -/
def name : Calendar → String
  | jalali => "Jalali"
  | gregorian => "Gregorian"

end Calendar

/-- Three integers in the places of a year, a month and a day.  Nothing says that the date
exists. -/
structure Ymd where
  /-- The year; year 0 precedes year 1. -/
  year : Int
  /-- The month, 1 for the first. -/
  month : Int
  /-- The day of the month, 1 for the first. -/
  day : Int
deriving DecidableEq, Repr

end PersianCalendar
