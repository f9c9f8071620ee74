import PersianCalendar.DateError
import PersianCalendar.Gregorian.DayNumber
import PersianCalendar.Jalali.Run
import PersianCalendar.Width

/-!
# The first day of a Jalali year

Nowruz, the first day of the year, falls in March.  It moves a day back in the Gregorian calendar
with each leap day that the Gregorian calendar has had, and a day forward with each leap day of its
own calendar, so its date is a difference of two counts of leap years.
-/

namespace PersianCalendar.Jalali

/-- What is known of a year: where it starts, and whether it is leap. -/
structure YearStart where
  /-- The Gregorian year in whose March the year starts. -/
  gregorianYear : Int
  /-- The day of March of the first day. -/
  marchDay : Int
  /-- Whether the last month has 30 days. -/
  isLeap : Bool
deriving DecidableEq, Repr

/-- A Jalali year starts in the Gregorian year with a number greater by this much. -/
def yearOffset : Int := 621

namespace YearStart

/-- The day number of the first day. -/
def dayNumber (s : YearStart) : Int :=
  Gregorian.dayNumber s.gregorianYear 3 s.marchDay

/-- The number of days of the year. -/
def length (s : YearStart) : Int :=
  if s.isLeap then 366 else 365

/-- The start of a year of a run: a day of March that is later by one for each Jalali leap year
before it, and earlier by one for each Gregorian leap year.  The constant makes up for the years at
which the two counts begin. -/
def ofRun (r : Run) (year : Int) : YearStart where
  gregorianYear := year + yearOffset
  marchDay := 156 + r.leapsBefore year - Gregorian.leapYearsThrough (year + yearOffset)
  isLeap := r.IsLeap year

/-- The start of a year; a year outside all runs is refused. -/
def ofYear (year : Int) : Except DateError YearStart :=
  match run? year with
  | some r => .ok (ofRun r year)
  | none => .error (.unsupportedYear year)

/-- The start of a year, where a year outside all runs is taken to be common and to start on 20
March.  Its Gregorian year stays within 32 bits. -/
def approximate (year : Int) : YearStart :=
  match run? year with
  | some r => ofRun r year
  | none => ⟨Width.signed32.clamp (year + yearOffset), 20, false⟩

/-! ### A start and its approximation -/

theorem ofYear_eq_ok_iff {year : Int} {s : YearStart} :
    ofYear year = .ok s ↔ Supported year ∧ approximate year = s := by
  unfold ofYear approximate
  cases h : run? year with
  | none => simp [run?_eq_none_iff.1 h]
  | some r => simp [supported_of_run?_eq_some h]

theorem ofYear_eq_error_iff {year : Int} {e : DateError} :
    ofYear year = .error e ↔ ¬Supported year ∧ e = .unsupportedYear year := by
  unfold ofYear
  cases h : run? year with
  | none => simp [run?_eq_none_iff.1 h, eq_comm]
  | some r => simp [supported_of_run?_eq_some h]

end YearStart

/-- Whether a year is leap; a year outside all runs is refused. -/
def isLeapYear (year : Int) : Except DateError Bool :=
  (YearStart.ofYear year).map YearStart.isLeap

end PersianCalendar.Jalali
