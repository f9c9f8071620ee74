import PersianCalendar.Reading.YearFirst

/-!
# Dates of an unknown calendar

The calendar and the place of the year are told from the numbers.  A first or last number that is at
least the threshold is a Gregorian year; below it the date is Jalali, and of the outer fields the
one with more digits is the year.  Fields with equally many digits are refused.
-/

namespace PersianCalendar.Reading

/-- Years from this one on are taken for Gregorian, smaller ones for Jalali. -/
def gregorianThreshold : Int := 1700

/-- The calendar and the fields that are meant by three fields and their numbers. -/
def guess (threshold : Int) (fields : Triple (List Char)) (numbers : Triple Nat) :
    Option (Calendar × Ymd) :=
  if threshold ≤ numbers.first then some (.gregorian, numbers.toYmd)
  else if threshold ≤ numbers.last then some (.gregorian, numbers.swap.toYmd)
  else if fields.last.length < fields.first.length then some (.jalali, numbers.toYmd)
  else if fields.first.length < fields.last.length then some (.jalali, numbers.swap.toYmd)
  else none

/-- Reads the calendar and the fields of a date of an unknown calendar. -/
def looseFields (threshold : Int) (cs : List Char) : Except ReadError (Calendar × Ymd) := do
  let cs := Text.clean cs
  if cs = [] then throw .empty
  let fields ← split cs
  let numbers ← fields.traverse numeral
  match guess threshold fields numbers with
  | some meant => return meant
  | none => throw (.ambiguous (String.ofList cs))

end PersianCalendar.Reading

namespace PersianCalendar

/-- Reads a date of an unknown calendar, with a threshold for Gregorian years. -/
def AnyDate.readLooseWith (threshold : Int) (s : String) : Except ReadError AnyDate := do
  let (c, f) ← Reading.looseFields threshold s.toList
  ReadError.ofDate (AnyDate.ofYmd c f)

/-- Reads a date of an unknown calendar. -/
def AnyDate.readLoose (s : String) : Except ReadError AnyDate :=
  AnyDate.readLooseWith Reading.gregorianThreshold s

end PersianCalendar
