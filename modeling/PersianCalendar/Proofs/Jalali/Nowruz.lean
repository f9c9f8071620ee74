import PersianCalendar.Jalali.YearStart
import PersianCalendar.Proofs.Gregorian.Months
import PersianCalendar.Proofs.Jalali.Runs

/-!
# The first days of the Jalali years

The day of March on which a year starts is a difference of two counts of leap years.  In the day
number the Gregorian count cancels out: a year starts 365 days and its own leap day after the year
before (`YearStart.dayNumber_add_one`).  In the day of March both counts stay, and it lies between
19 and 22 as long as they grow at nearly the same rate (`YearStart.marchDay_bounds`).
-/

namespace PersianCalendar.Jalali

namespace YearStart

variable {year : Int}

lemma approximate_of_run? {r : Run} (h : run? year = some r) :
    approximate year = ofRun r year := by
  simp only [approximate, h]

lemma ofYear_of_supported (h : Supported year) : ofYear year = .ok (approximate year) :=
  ofYear_eq_ok_iff.2 ⟨h, rfl⟩

lemma ofYear_of_not_supported (h : ¬Supported year) :
    ofYear year = .error (.unsupportedYear year) :=
  ofYear_eq_error_iff.2 ⟨h, rfl⟩

lemma gregorianYear_approximate (h : Supported year) :
    (approximate year).gregorianYear = year + yearOffset := by
  obtain ⟨r, hr⟩ := exists_run h
  rw [approximate_of_run? hr]
  rfl

lemma length_bounds (s : YearStart) : 365 ≤ s.length ∧ s.length ≤ 366 := by
  simp only [length]
  split <;> omega

/-- A year starts 365 days for each year before it, and one for each Jalali leap year, after the day
from which both are counted. -/
lemma dayNumber_ofRun (r : Run) (year : Int) :
    (ofRun r year).dayNumber = 365 * (year + 5421) + r.leapsBefore year - 30725 := by
  simp only [dayNumber, ofRun, yearOffset, Gregorian.dayNumber, Gregorian.daysBeforeMarch,
    Gregorian.leapYearsThrough, Gregorian.daysBeforeMonth, Gregorian.countOrigin]
  omega

/-- A year starts on the day after the last day of the year before. -/
lemma dayNumber_add_one (h : Supported year) (h' : Supported (year + 1)) :
    (approximate (year + 1)).dayNumber = (approximate year).dayNumber + (approximate year).length := by
  obtain ⟨r, hr⟩ := exists_run h
  obtain ⟨r', hr'⟩ := exists_run h'
  obtain ⟨hmem, hfirst, hnext⟩ := mem_runs hr
  obtain ⟨hmem', hfirst', hnext'⟩ := mem_runs hr'
  have hleaps : r'.leapsBefore (year + 1) = r.leapsBefore year + if r.IsLeap year then 1 else 0 := by
    by_cases hin : year + 1 < r.next
    · have hrun : r' = r := eq_of_mem r hmem r' hmem' (by omega) (by omega)
      rw [hrun]
      exact Run.leapsBefore_add_one (regular_of_mem r hmem) hin
    · have hend : year + 1 = r.next := by omega
      exact Run.leapsBefore_of_follows (regular_of_mem r hmem) (regular_of_mem r' hmem')
        (follows_of_mem r hmem r' hmem' (by omega) (by omega)) hend
  rw [approximate_of_run? hr, approximate_of_run? hr', dayNumber_ofRun, dayNumber_ofRun, hleaps]
  simp only [length, ofRun, decide_eq_true_eq]
  split <;> omega

/-- Four hundred times the number of leap years is close to 97 times the number of years. -/
lemma leapYearsThrough_bounds (year : Int) :
    97 * year - 699 ≤ 400 * Gregorian.leapYearsThrough year ∧
      400 * Gregorian.leapYearsThrough year ≤ 97 * year + 396 := by
  simp only [Gregorian.leapYearsThrough]
  omega

/-- The first day of a year is one of four days of March.  In 13200 years the Jalali calendar has
3200 leap years and the Gregorian calendar 3201, so that the first day hardly moves. -/
lemma marchDay_bounds (h : Supported year) :
    19 ≤ (approximate year).marchDay ∧ (approximate year).marchDay ≤ 22 := by
  obtain ⟨r, hr⟩ := exists_run h
  have hdrift := drift_of_mem r (mem_runs hr).1
  have hjalali := r.leapsBefore_bounds year
  have hgregorian := leapYearsThrough_bounds (year + yearOffset)
  rw [approximate_of_run? hr]
  simp only [ofRun]
  simp only [Supported, firstYear, lastYear] at h
  simp only [yearOffset] at hgregorian ⊢
  omega

end YearStart

end PersianCalendar.Jalali
