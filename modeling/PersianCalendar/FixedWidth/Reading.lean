import PersianCalendar.FixedWidth.Date
import PersianCalendar.Persian.Display
import PersianCalendar.Reading.Tagged

/-!
# Reading and showing dates with words of fixed width

A numeral is only read if it fits in 32 bits, so of the year only the change of its sign is a step.
Everything else about a text is done character by character, and the looking up of Persian digits
and of the names of months is a step again.
-/

namespace PersianCalendar.FixedWidth.Reading

open PersianCalendar.Reading (Signed)

/-- Takes the error of a date for the error of the text it was read from. -/
def ofDate (r : Checked DateError α) : Checked ReadError α :=
  ExceptT.mk (r.run.map ReadError.ofDate)

/-- The year, month and day that are meant. -/
def signedToYmd (s : Signed) : Except Fault Ymd := do
  if s.negative then return { s.numbers.toYmd with year := ← step32 (-(s.numbers.first : Int)) }
  else return s.numbers.toYmd

/-- Reads a date of a calendar, with the year in front. -/
def date (c : Calendar) (s : String) : Checked ReadError (Date c) := do
  let fields ← Checked.ofExcept (Reading.signedFields s.toList)
  ofDate (Date.ofYmd c (← signedToYmd fields))

/-- Builds a date of a calendar from its fields. -/
def anyDate (c : Calendar) (f : Ymd) : Checked DateError AnyDate := do
  return ⟨c, ← Date.ofYmd c f⟩

/-- Reads a date that names its calendar. -/
def tagged (s : String) : Checked ReadError AnyDate := do
  let (c, fields) ← Checked.ofExcept (Reading.taggedFields s.toList)
  ofDate (anyDate c (← signedToYmd fields))

/-- Reads a date of an unknown calendar, with a threshold for Gregorian years. -/
def looseWith (threshold : Int) (s : String) : Checked ReadError AnyDate := do
  let (c, f) ← Checked.ofExcept (Reading.looseFields threshold s.toList)
  ofDate (anyDate c f)

/-- The Persian digit of the same value, for an ASCII digit. -/
def persianDigit (c : Char) : Except Fault Char :=
  if c.isDigit then item Digit.persianDigits (c.toNat - '0'.toNat) else .ok c

/-- The date in figures, with Persian digits. -/
def shortForm (d : PersianCalendar.Date .jalali) : Except Fault String := do
  return String.ofList (← d.chars.mapM persianDigit)

/-- The date with the name of its month, in Persian. -/
def longForm (d : PersianCalendar.Date .jalali) : Except Fault String := do
  let name ← item Persian.persianMonths (← step .unsigned8 (d.month - 1))
  let plain := Decimal.chars 0 d.day ++ ' ' :: (name.toList ++ ' ' :: Decimal.chars 0 d.year)
  return String.ofList (← plain.mapM persianDigit)

/-- The Jalali date of fields that are Gregorian from the threshold on and Jalali below it. -/
def jalaliOfFields (f : Ymd) : Checked DateError (PersianCalendar.Date .jalali) := do
  if f.year < Reading.gregorianThreshold then Date.ofYmd .jalali f
  else Date.convert (← Date.ofYmd .gregorian f) .jalali

/-- The short Persian form of the date of a timestamp. -/
def ofTimestamp (s : String) : Checked ReadError String := do
  let fields ← Checked.ofExcept (Reading.signedFields (Persian.datePart s.toList))
  shortForm (← ofDate (jalaliOfFields (← signedToYmd fields)))

/-- The short Persian form of the date of a timestamp, or the placeholder. -/
def display (s : String) : Except Fault String := do
  match ← (ofTimestamp s).run with
  | .ok text => return text
  | .error _ => return Persian.placeholder

end PersianCalendar.FixedWidth.Reading
