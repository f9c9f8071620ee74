import PersianCalendar.Date.AnyDate

/-!
# Dates in figures

The year takes four places, the month and the day two each.  A Jalali date is divided by slashes and
a Gregorian one by hyphens.
-/

namespace PersianCalendar

/-- The character between the fields of a written date. -/
def Calendar.separator : Calendar → Char
  | jalali => '/'
  | gregorian => '-'

/-- The characters of a written date. -/
def Date.chars {c : Calendar} (d : Date c) : List Char :=
  Decimal.chars 4 d.year ++ c.separator :: (Decimal.chars 2 d.month ++ c.separator ::
    Decimal.chars 2 d.day)

/-- The date as it is written in figures. -/
def Date.text {c : Calendar} (d : Date c) : String := String.ofList d.chars

@[simp] theorem Date.toList_text {c : Calendar} (d : Date c) : d.text.toList = d.chars :=
  String.toList_ofList

/-- The date as it is written in figures, by the rules of its calendar. -/
def AnyDate.text (d : AnyDate) : String := d.date.text

end PersianCalendar
