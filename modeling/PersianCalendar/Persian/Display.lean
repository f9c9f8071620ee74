import PersianCalendar.Persian.Written
import PersianCalendar.Reading.Loose

/-!
# Showing a written date in Persian

A date with the year in front, such as the start of a timestamp, is shown as a Jalali date with
Persian digits.  A year below the threshold of the Gregorian years is taken to be Jalali already.
-/

namespace PersianCalendar.Persian

/-- Whether a character ends the date of a timestamp. -/
def endsDate (c : Char) : Bool := c == 'T' || Text.isBlank c

/-- The date at the front of a timestamp. -/
def datePart (cs : List Char) : List Char := (Text.clean cs).takeWhile fun c => !endsDate c

/-- The Jalali date of fields that are Gregorian from the threshold on and Jalali below it. -/
def jalaliOfFields (f : Ymd) : Except DateError (Date .jalali) := do
  if f.year < Reading.gregorianThreshold then Date.ofYmd .jalali f
  else (← Date.ofYmd .gregorian f).convert .jalali

/-- The Jalali date of a timestamp. -/
def jalaliOfTimestamp (s : String) : Except ReadError (Date .jalali) := do
  ReadError.ofDate (jalaliOfFields (← Reading.yearFirst (datePart s.toList)))

/-- The short Persian form of the date of a timestamp. -/
def ofTimestamp (s : String) : Except ReadError String :=
  (jalaliOfTimestamp s).map shortForm

/-- What is shown in place of a date that cannot be read. -/
def placeholder : String := "—"

/-- The short Persian form of the date of a timestamp, or the placeholder. -/
def display (s : String) : String :=
  match ofTimestamp s with
  | .ok text => text
  | .error _ => placeholder

end PersianCalendar.Persian
