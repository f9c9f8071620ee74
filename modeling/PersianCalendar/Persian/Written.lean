import PersianCalendar.Date.Written
import PersianCalendar.Persian.Month
import PersianCalendar.Text.Digit

/-!
# Jalali dates in Persian

The short form is the date in figures with Persian digits.  The long form is the day, the name of
the month and the year, divided by blanks, and its numbers are not padded.
-/

namespace PersianCalendar.Persian

/-- The characters of the short form. -/
def shortChars (d : Date .jalali) : List Char := d.chars.map Digit.persian

/-- The date in figures, with Persian digits. -/
def shortForm (d : Date .jalali) : String := String.ofList (shortChars d)

@[simp] theorem toList_shortForm (d : Date .jalali) :
    (shortForm d).toList = d.chars.map Digit.persian :=
  String.toList_ofList

/-- The characters of the long form, before its digits become Persian. -/
def longPlainChars (d : Date .jalali) : List Char :=
  Decimal.chars 0 d.day ++ ' ' :: (((persianMonth? d.month).getD "").toList ++ ' ' ::
    Decimal.chars 0 d.year)

/-- The date with the name of its month, in Persian. -/
def longForm (d : Date .jalali) : String :=
  String.ofList ((longPlainChars d).map Digit.persian)

end PersianCalendar.Persian
