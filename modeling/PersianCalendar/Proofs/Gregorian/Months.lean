import Mathlib.Tactic.Lemma
import PersianCalendar.Gregorian.DayNumber

/-!
# Gregorian months and years, one after the other

`dayNumber` counts the days before a month by a straight line through the months from March on.
This file compares the line with the table of month lengths: the first of a month comes as many days
after the first of the month before as that month is long (`dayNumber_add_month`), and 1 January
comes 31 days after 1 December (`dayNumber_add_one_year`).
-/

namespace PersianCalendar.Gregorian

/-! ### Years -/

lemma isLeapYear_add_4800 (year : Int) : IsLeapYear (year + 4800) ↔ IsLeapYear year := by
  simp only [IsLeapYear]
  omega

/-- A year counted from March is as long as the February at its end says. -/
lemma daysBeforeMarch_add_one (year : Int) :
    daysBeforeMarch (year + 1) =
      daysBeforeMarch year + 365 + if IsLeapYear (year + 1) then 1 else 0 := by
  have h := leapYearsThrough_add_one (year + 4800)
  rw [show year + 4800 + 1 = year + 1 + 4800 by omega] at h
  simp only [isLeapYear_add_4800] at h
  simp only [daysBeforeMarch, h]
  omega

/-! ### Months -/

/-- The lengths of the months other than February are the steps of the line. -/
lemma monthLength_of_ne_two (year : Int) {month : Int} (h : 1 ≤ month ∧ month ≤ 12)
    (h2 : month ≠ 2) :
    monthLength year month =
      daysBeforeMonth ((month - 3) % 12 + 1) - daysBeforeMonth ((month - 3) % 12) := by
  have hm : month = 1 ∨ month = 3 ∨ month = 4 ∨ month = 5 ∨ month = 6 ∨ month = 7 ∨ month = 8
      ∨ month = 9 ∨ month = 10 ∨ month = 11 ∨ month = 12 := by omega
  simp only [monthLength, h2, false_and, if_false]
  rcases hm with rfl | rfl | rfl | rfl | rfl | rfl | rfl | rfl | rfl | rfl | rfl <;> decide

lemma monthLength_two (year : Int) :
    monthLength year 2 = 28 + if IsLeapYear year then 1 else 0 := by
  by_cases h : IsLeapYear year <;> simp [monthLength, h, monthLengths]

/-- The first of the next month comes after all days of a month. -/
lemma dayNumber_add_month (year : Int) {month : Int} (h : 1 ≤ month ∧ month ≤ 12) :
    dayNumber year (month + 1) 1 = dayNumber year month 1 + monthLength year month := by
  by_cases h2 : month = 2
  · -- the year that is counted from March ends with this month
    subst h2
    have hyear := daysBeforeMarch_add_one (year - 1)
    rw [show year - 1 + 1 = year by omega] at hyear
    rw [monthLength_two]
    simp only [dayNumber, show ((2 : Int) + 1 - 3) / 12 = 0 by decide,
      show ((2 : Int) + 1 - 3) % 12 = 0 by decide, show ((2 : Int) - 3) / 12 = -1 by decide,
      show ((2 : Int) - 3) % 12 = 11 by decide, show daysBeforeMonth 0 = 0 by decide,
      show daysBeforeMonth 11 = 337 by decide, Int.add_zero, ← Int.sub_eq_add_neg, hyear]
    omega
  · have hdiv : (month + 1 - 3) / 12 = (month - 3) / 12 := by omega
    have hmod : (month + 1 - 3) % 12 = (month - 3) % 12 + 1 := by omega
    rw [monthLength_of_ne_two year h h2]
    simp only [dayNumber, hdiv, hmod]
    omega

/-- The first of January comes after all days of December. -/
lemma dayNumber_add_one_year (year : Int) :
    dayNumber (year + 1) 1 1 = dayNumber year 12 1 + monthLength year 12 := by
  rw [dayNumber_add_year, ← dayNumber_add_month year (by decide)]
  rfl

end PersianCalendar.Gregorian
