import PersianCalendar.Jalali.DayOfYear

/-!
# Dates

A date belongs to a calendar by its type.  It is a triple of fields and can be written down without
being valid; `Date.Valid` says which dates exist in the calendar and lie in its supported years, and
`Date.ofYmd` builds a date from fields after checking them.
-/

namespace PersianCalendar

namespace Calendar

/-- The first year of the calendar that is supported. -/
def firstYear : Calendar → Int
  | jalali => Jalali.firstYear
  | gregorian => Width.signed32.least

/-- The last year of the calendar that is supported. -/
def lastYear : Calendar → Int
  | jalali => Jalali.lastYear
  | gregorian => Width.signed32.greatest

/-- The years of a calendar in which dates are supported. -/
def Supports (c : Calendar) (year : Int) : Prop :=
  c.firstYear ≤ year ∧ year ≤ c.lastYear

instance (c : Calendar) (year : Int) : Decidable (c.Supports year) :=
  inferInstanceAs (Decidable (_ ∧ _))

/-- Whether a year is leap.  A Jalali year that is not supported is taken to be common. -/
def isLeapYear : Calendar → Int → Bool
  | jalali, year => (Jalali.YearStart.approximate year).isLeap
  | gregorian, year => Gregorian.IsLeapYear year

/-- The number of days of month `month`, from 1 to 12, of a year. -/
def monthLength : Calendar → Int → Int → Int
  | jalali, year, month => Jalali.monthLength (isLeapYear .jalali year) month
  | gregorian, year, month => Gregorian.monthLength year month

/-- The year has the month, and the month has the day. -/
def HasDay (c : Calendar) (f : Ymd) : Prop :=
  (1 ≤ f.month ∧ f.month ≤ 12) ∧ 1 ≤ f.day ∧ f.day ≤ c.monthLength f.year f.month

instance (c : Calendar) (f : Ymd) : Decidable (c.HasDay f) :=
  inferInstanceAs (Decidable (_ ∧ _))

theorem monthLength_le (c : Calendar) {year month : Int} (h : 1 ≤ month ∧ month ≤ 12) :
    c.monthLength year month ≤ 31 := by
  cases c
  · exact (Jalali.monthLength_bounds _ _).2
  · exact (Gregorian.monthLength_bounds h).2

/-- The month and the day of a date have 8 bits. -/
theorem HasDay.holds {c : Calendar} {f : Ymd} (h : c.HasDay f) :
    Width.unsigned8.Holds f.month ∧ Width.unsigned8.Holds f.day := by
  have hle : c.monthLength f.year f.month ≤ 31 := c.monthLength_le h.1
  obtain ⟨⟨h1, h2⟩, h3, h4⟩ := h
  simp
  omega

end Calendar

/-- A date of a calendar. -/
structure Date (c : Calendar) extends Ymd
deriving DecidableEq, Repr

namespace Date

variable {c : Calendar}

/-- The date exists in its calendar, in one of the supported years. -/
def Valid (d : Date c) : Prop :=
  c.Supports d.year ∧ c.HasDay d.toYmd

instance (d : Date c) : Decidable d.Valid :=
  inferInstanceAs (Decidable (_ ∧ _))

/-- Builds a date from its fields.  A month or a day that is no number of 8 bits is refused before
anything else, then an unsupported year, then a month or a day that the year does not have. -/
def ofYmd (c : Calendar) (f : Ymd) : Except DateError (Date c) :=
  if ¬(Width.unsigned8.Holds f.month ∧ Width.unsigned8.Holds f.day) then .error (.noSuchDate c f)
  else if ¬c.Supports f.year then .error (.unsupportedYear f.year)
  else if c.HasDay f then .ok ⟨f⟩
  else .error (.noSuchDate c f)

theorem ofYmd_eq_ok_iff {f : Ymd} {d : Date c} : ofYmd c f = .ok d ↔ d.Valid ∧ d.toYmd = f := by
  unfold ofYmd Valid
  constructor
  · intro h
    split at h
    · cases h
    · split at h
      · cases h
      · split at h
        · cases h
          exact ⟨⟨Decidable.not_not.1 ‹_›, ‹_›⟩, rfl⟩
        · cases h
  · rintro ⟨⟨hs, hd⟩, rfl⟩
    rw [if_neg (not_not_intro hd.holds), if_neg (not_not_intro hs), if_pos hd]

/-- Whether the year of a date is leap. -/
def isLeapYear (d : Date c) : Bool := c.isLeapYear d.year

/-- The number of days of the month of a date. -/
def daysInMonth (d : Date c) : Int := c.monthLength d.year d.month

end Date

end PersianCalendar
