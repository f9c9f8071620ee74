import Mathlib.Tactic.Lemma
import PersianCalendar.Jalali.DayOfYear

/-!
# Jalali months, one after the other

`dayOfYear` counts the days before a month by a formula.  The formula agrees with the month lengths:
the first of a month comes as many days after the first of the month before as that month is long,
and the months of a year make up the whole year.  `monthDay` finds the month and the day of any day
of the year.
-/

namespace PersianCalendar.Jalali

lemma dayOfYear_one_one : dayOfYear 1 1 = 0 := by decide

lemma dayOfYear_add_day (month day k : Int) :
    dayOfYear month (day + k) = dayOfYear month day + k := by
  simp only [dayOfYear]
  omega

/-- The count of the days before a month, without the product of the formula. -/
lemma dayOfYear_eq {month : Int} (h : 1 ≤ month ∧ month ≤ 12) (day : Int) :
    dayOfYear month day =
      (if month ≤ 6 then 31 * (month - 1) else firstHalfDays + 30 * (month - 7)) + day - 1 := by
  simp only [dayOfYear, firstHalfDays]
  by_cases h6 : month ≤ 6
  · have hhalf : month / 7 = 0 := by omega
    rw [hhalf, if_pos h6]
    omega
  · have hhalf : month / 7 = 1 := by omega
    rw [hhalf, if_neg h6]
    omega

/-- The first of the next month comes after all days of a month. -/
lemma dayOfYear_add_month (isLeap : Bool) {month : Int} (h : 1 ≤ month ∧ month < 12) :
    dayOfYear (month + 1) 1 = dayOfYear month 1 + monthLength isLeap month := by
  rw [dayOfYear_eq (by omega), dayOfYear_eq (by omega)]
  simp only [monthLength, firstHalfDays]
  omega

/-- The last month ends with the year. -/
lemma dayOfYear_twelve (isLeap : Bool) :
    dayOfYear 12 1 + monthLength isLeap 12 = if isLeap then 366 else 365 := by
  cases isLeap <;> decide

/-! ### The month and the day of a day of the year -/

lemma monthDay_of_lt {days : Int} (h : days < 186) :
    monthDay days = (1 + days / 31, days % 31 + 1) :=
  if_pos h

lemma monthDay_of_le {days : Int} (h : 186 ≤ days) :
    monthDay days = (7 + (days - 186) / 30, (days - 186) % 30 + 1) :=
  if_neg (Int.not_lt.2 h)

lemma monthDay_month {days : Int} (h : 0 ≤ days ∧ days < 366) :
    1 ≤ (monthDay days).1 ∧ (monthDay days).1 ≤ 12 := by
  rcases Int.lt_or_le days 186 with hhalf | hhalf
  · rw [monthDay_of_lt hhalf]
    omega
  · rw [monthDay_of_le hhalf]
    omega

/-- A day of the year has its place in the month found for it. -/
lemma dayOfYear_monthDay {days : Int} (h : 0 ≤ days ∧ days < 366) :
    dayOfYear (monthDay days).1 (monthDay days).2 = days := by
  rw [dayOfYear_eq (monthDay_month h), firstHalfDays]
  rcases Int.lt_or_le days 186 with hhalf | hhalf
  · rw [monthDay_of_lt hhalf]
    omega
  · rw [monthDay_of_le hhalf]
    omega

/-- The month found for a day of the year has the day found in it.  Only the last day of the year
needs to know whether the year is leap. -/
lemma monthDay_day {isLeap : Bool} {days : Int}
    (h : 0 ≤ days ∧ days < if isLeap then 366 else 365) :
    1 ≤ (monthDay days).2 ∧ (monthDay days).2 ≤ monthLength isLeap (monthDay days).1 := by
  simp only [monthLength]
  rcases Int.lt_or_le days 186 with hhalf | hhalf
  · rw [monthDay_of_lt hhalf]
    omega
  · rw [monthDay_of_le hhalf]
    cases isLeap
    · simp only [Bool.false_eq_true, if_false] at h ⊢
      omega
    · simp only [if_true] at h ⊢
      omega

end PersianCalendar.Jalali
