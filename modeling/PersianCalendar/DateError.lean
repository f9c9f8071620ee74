import PersianCalendar.Calendar
import PersianCalendar.Jalali.Run
import PersianCalendar.Text.Decimal

/-!
# Why a date is refused
-/

namespace PersianCalendar

/-- The reasons for which there is no date. -/
inductive DateError where
  /-- The calendar has no such month, or the month has no such day. -/
  | noSuchDate (calendar : Calendar) (ymd : Ymd)
  /-- The year lies outside the years for which the calendar is known. -/
  | unsupportedYear (year : Int)
deriving DecidableEq, Repr

namespace DateError

/-- The text that tells a reader of the error what was refused.  Fields are padded to two places, of
which a minus sign takes one. -/
def message : DateError → String
  | noSuchDate calendar ymd =>
    "Invalid " ++ calendar.name ++ " date: " ++ Decimal.text 0 ymd.year ++ "/"
      ++ Decimal.text 2 ymd.month ++ "/" ++ Decimal.text 2 ymd.day
  | unsupportedYear year =>
    "Jalali year " ++ Decimal.text 0 year ++ " is out of supported range ("
      ++ Decimal.text 0 Jalali.firstYear ++ " to " ++ Decimal.text 0 Jalali.lastYear ++ ")"

end DateError

end PersianCalendar
