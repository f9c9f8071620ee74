import PersianCalendar.Date.DayNumber

/-!
# Dates with their calendar
-/

namespace PersianCalendar

/-- A date together with the calendar it is written in. -/
structure AnyDate where
  /-- The calendar of the date. -/
  calendar : Calendar
  /-- The date in that calendar. -/
  date : Date calendar
deriving DecidableEq, Repr

namespace AnyDate

/-- The date exists in its calendar, in one of the supported years. -/
def Valid (d : AnyDate) : Prop := d.date.Valid

instance (d : AnyDate) : Decidable d.Valid := inferInstanceAs (Decidable d.date.Valid)

/-- Builds a date of a calendar from its fields. -/
def ofYmd (c : Calendar) (f : Ymd) : Except DateError AnyDate :=
  (Date.ofYmd c f).map (AnyDate.mk c)

/-- The date of a day number in a calendar. -/
def ofDayNumber (c : Calendar) (n : Int) : Except DateError AnyDate :=
  (Date.ofDayNumber c n).map (AnyDate.mk c)

/-- The fields of a date. -/
def ymd (d : AnyDate) : Ymd := d.date.toYmd

/-- A date that exists is built again from its own fields. -/
theorem ofYmd_ymd {d : AnyDate} (h : d.Valid) : ofYmd d.calendar d.ymd = .ok d := by
  rw [ofYmd, ymd, Date.ofYmd_eq_ok_iff.2 ⟨h, rfl⟩]
  rfl

/-- The day number of a date. -/
def dayNumber (d : AnyDate) : Int := d.date.dayNumber

/-- The Jalali date of the same day.  A Jalali date is its own; of the other ones, those outside the
supported years are refused. -/
def toJalali : AnyDate → Except DateError (Date .jalali)
  | ⟨.jalali, d⟩ => .ok d
  | ⟨.gregorian, d⟩ => d.convert .jalali

/-- The Gregorian date of the same day. -/
def toGregorian : AnyDate → Date .gregorian
  | ⟨.jalali, d⟩ => d.toGregorian
  | ⟨.gregorian, d⟩ => d

/-- Moves a date by a number of days, within its calendar. -/
def addDays (d : AnyDate) (days : Int) : Except DateError AnyDate :=
  (d.date.addDays days).map (AnyDate.mk d.calendar)

end AnyDate

end PersianCalendar
