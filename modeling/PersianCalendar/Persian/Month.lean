/-!
# Names of the Jalali months
-/

namespace PersianCalendar.Persian

/-- The names of the months in Latin letters. -/
def latinMonths : List String :=
  ["Farvardin", "Ordibehesht", "Khordad", "Tir", "Mordad", "Shahrivar", "Mehr", "Aban", "Azar",
    "Dey", "Bahman", "Esfand"]

/-- The names of the months in Persian. -/
def persianMonths : List String :=
  ["فروردین", "اردیبهشت", "خرداد", "تیر", "مرداد", "شهریور", "مهر", "آبان", "آذر", "دی", "بهمن",
    "اسفند"]

/-- The name at the place of a month, 1 for the first, if there is such a month. -/
def nameOf? (names : List String) (month : Int) : Option String :=
  if 1 ≤ month then names[(month - 1).toNat]? else none

/-- The name of a month in Latin letters. -/
def latinMonth? (month : Int) : Option String := nameOf? latinMonths month

/-- The name of a month in Persian. -/
def persianMonth? (month : Int) : Option String := nameOf? persianMonths month

end PersianCalendar.Persian
