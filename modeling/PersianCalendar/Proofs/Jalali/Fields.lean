import Mathlib.Tactic.ByContra
import PersianCalendar.Proofs.Date.Range
import PersianCalendar.Proofs.Gregorian.Split

/-!
# The Jalali fields of a day number

`fieldsOfDay` finds the Gregorian year of a day, takes the Jalali year that starts in it, and goes
back to the year before when the day comes before the first of that year.  As every Jalali year
starts in March of its Gregorian year, one of the two is the right one, unless the day lies outside
all runs (`outcome_fieldsOfDay`).
-/

namespace PersianCalendar.Jalali

open Calendar (Beyond)

variable {year n : Int}

/-- The day number of the first day of a year, which is that of the supported year. -/
def firstOf (year : Int) : Int :=
  (YearStart.approximate year).dayNumber

/-- The number of days of a year. -/
def lengthOf (year : Int) : Int :=
  (YearStart.approximate year).length

lemma firstOf_eq (year : Int) : firstOf year = Calendar.jalali.dayNumber ⟨year, 1, 1⟩ := by
  simp only [Calendar.dayNumber, dayOfYear_one_one, Int.add_zero]
  rfl

lemma firstOf_add_one (h : Supported year) (h' : Supported (year + 1)) :
    firstOf (year + 1) = firstOf year + lengthOf year :=
  YearStart.dayNumber_add_one h h'

lemma firstOf_mono {later : Int} (h : Supported year) (hle : year ≤ later)
    (hlater : Supported later) : firstOf year ≤ firstOf later := by
  rw [firstOf_eq, firstOf_eq]
  exact Calendar.dayNumber_year_mono (show Calendar.jalali.Knows year from h) hle hlater

lemma lastDay_eq : Calendar.jalali.lastDay + 1 = firstOf lastYear + lengthOf lastYear := by
  decide

/-! ### The Gregorian year in which a year starts -/

lemma firstOf_eq_march (h : Supported year) :
    firstOf year =
      Calendar.gregorian.dayNumber ⟨year + 621, 3, (YearStart.approximate year).marchDay⟩ := by
  simp only [firstOf, YearStart.dayNumber, YearStart.gregorianYear_approximate h, yearOffset,
    Calendar.dayNumber]

lemma hasDay_march (h : Supported year) :
    Calendar.gregorian.HasDay ⟨year + 621, 3, (YearStart.approximate year).marchDay⟩ := by
  have hmarch := YearStart.marchDay_bounds h
  have hlen : Gregorian.monthLength (year + 621) 3 = 31 := by
    simp [Gregorian.monthLength, Gregorian.monthLengths]
  refine ⟨⟨show (1 : Int) ≤ 3 by decide, show (3 : Int) ≤ 12 by decide⟩, ?_⟩
  simp only [Calendar.monthLength, hlen]
  omega

/-- A year starts between the first days of its Gregorian year and of the next one. -/
lemma firstOf_bounds (h : Supported year) :
    Gregorian.dayNumber (year + 621) 1 1 ≤ firstOf year ∧
      firstOf year < Gregorian.dayNumber (year + 622) 1 1 := by
  have hday := hasDay_march h
  rw [firstOf_eq_march h]
  exact ⟨Calendar.dayNumber_year_first_le hday,
    Calendar.dayNumber_lt_year hday (by simp only; omega) trivial trivial⟩

/-- The Gregorian year found for a day number has the day. -/
lemma gregorianYear_bounds (n : Int) :
    Gregorian.dayNumber (Gregorian.ofDayNumber n).year 1 1 ≤ n ∧
      n < Gregorian.dayNumber ((Gregorian.ofDayNumber n).year + 1) 1 1 := by
  have hday : Calendar.gregorian.HasDay (Gregorian.ofDayNumber n) :=
    ⟨Gregorian.ofDayNumber_month n, Gregorian.ofDayNumber_day n⟩
  have hn : Calendar.gregorian.dayNumber (Gregorian.ofDayNumber n) = n :=
    Gregorian.dayNumber_ofDayNumber n
  have hfirst := Calendar.dayNumber_year_first_le hday
  have hnext := Calendar.dayNumber_lt_year hday (Int.lt_succ _) trivial trivial
  rw [hn] at hfirst hnext
  exact ⟨hfirst, hnext⟩

/-- The first days of Gregorian years, in their order. -/
lemma newYear_mono {later : Int} (h : year ≤ later) :
    Gregorian.dayNumber year 1 1 ≤ Gregorian.dayNumber later 1 1 :=
  Calendar.dayNumber_year_mono (show Calendar.gregorian.Knows year from trivial) h trivial

/-! ### A day of a year -/

/-- The fields `f` are those of the day `n`, which exists in a supported year. -/
def IsDay (n : Int) (f : Ymd) : Prop :=
  Supported f.year ∧ Calendar.jalali.HasDay f ∧ Calendar.jalali.dayNumber f = n

lemma fieldsInYear_eq_ok (h : Supported year) (hlast : n < firstOf year + lengthOf year) :
    fieldsInYear year n =
      .ok ⟨year, (monthDay (n - firstOf year)).1, (monthDay (n - firstOf year)).2⟩ := by
  simp only [fieldsInYear, YearStart.ofYear_of_supported h]
  exact if_pos (by simp only [firstOf, lengthOf] at hlast; omega)

/-- A day of a supported year is found in it. -/
lemma fieldsInYear_of_lt (h : Supported year) (hfirst : firstOf year ≤ n)
    (hlast : n < firstOf year + lengthOf year) : ∃ f, fieldsInYear year n = .ok f ∧ IsDay n f := by
  have hlen := (YearStart.approximate year).length_bounds
  have hdays : 0 ≤ n - firstOf year ∧ n - firstOf year < lengthOf year := by omega
  have hin : 0 ≤ n - firstOf year ∧ n - firstOf year < 366 := by
    simp only [lengthOf] at hdays
    omega
  refine ⟨_, fieldsInYear_eq_ok h hlast, h, ⟨monthDay_month hin, monthDay_day hdays⟩, ?_⟩
  simp only [Calendar.dayNumber, dayOfYear_monthDay hin]
  show firstOf year + (n - firstOf year) = n
  omega

/-- A day after the end of a supported year is refused with the next year. -/
lemma fieldsInYear_of_le (h : Supported year) (hlast : firstOf year + lengthOf year ≤ n) :
    fieldsInYear year n = .error (.unsupportedYear (year + 1)) := by
  simp only [fieldsInYear, YearStart.ofYear_of_supported h]
  exact if_neg (by simp only [firstOf, lengthOf] at hlast; omega)

lemma fieldsInYear_of_not_supported (h : ¬Supported year) :
    fieldsInYear year n = .error (.unsupportedYear year) := by
  simp only [fieldsInYear, YearStart.ofYear_of_not_supported h]
  rfl

/-! ### The fields of a day number -/

lemma fieldsOfDay_of_gt (hn : lastDayNumber < n) :
    fieldsOfDay n = .error (.unsupportedYear Width.signed64.greatest) := by
  simp only [fieldsOfDay, Gregorian.fieldsOfDay, if_pos hn]
  rfl

lemma fieldsOfDay_of_not_before (h : Supported year) (hn : ¬lastDayNumber < n)
    (hyear : yearStarting (Gregorian.ofDayNumber n).year = year) :
    fieldsOfDay n = if n < firstOf year then fieldsInYear (year - 1) n else fieldsInYear year n := by
  simp only [fieldsOfDay, Gregorian.fieldsOfDay, if_neg hn, hyear,
    YearStart.ofYear_of_supported h, bind, Except.bind]
  rfl

lemma fieldsOfDay_of_not_supported (h : ¬Supported year) (hn : ¬lastDayNumber < n)
    (hyear : yearStarting (Gregorian.ofDayNumber n).year = year) :
    fieldsOfDay n = .error (.unsupportedYear year) := by
  simp only [fieldsOfDay, Gregorian.fieldsOfDay, if_neg hn, hyear,
    YearStart.ofYear_of_not_supported h, bind, Except.bind]

/-- The outcome of a search for the fields of the day `n`: they are found, or the day is refused with
a year on its side of the runs. -/
def Outcome (n : Int) (r : Except DateError Ymd) : Prop :=
  (∃ f, r = .ok f ∧ IsDay n f) ∨ ∃ year, r = .error (.unsupportedYear year) ∧ Beyond .jalali n year

lemma firstDay_eq : Calendar.jalali.firstDay = firstOf firstYear :=
  (firstOf_eq firstYear).symm

/-- The search in a year that starts on the day or before it and ends on the day or after it, or is
the last of all. -/
lemma outcome_fieldsInYear (h : Supported year) (hfirst : firstOf year ≤ n)
    (hlast : year ≠ lastYear → n < firstOf (year + 1)) : Outcome n (fieldsInYear year n) := by
  by_cases hin : n < firstOf year + lengthOf year
  · exact Or.inl (fieldsInYear_of_lt h hfirst hin)
  · -- a supported year that follows would have started by then
    have hend : year = lastYear := by
      by_contra hne
      have hnext : Supported (year + 1) := by
        simp only [Supported] at h ⊢
        omega
      have := hlast hne
      rw [firstOf_add_one h hnext] at this
      exact hin this
    refine Or.inr ⟨year + 1, fieldsInYear_of_le h (by omega), Or.inr ⟨?_, ?_⟩⟩
    · have := lastDay_eq
      subst hend
      omega
    · exact hend ▸ Int.lt_succ _

/-! ### The five ways through the search -/

lemma yearStarting_of_ne {gregorianYear : Int} (h : gregorianYear - 621 ≠ lastYear + 1) :
    yearStarting gregorianYear = gregorianYear - 621 :=
  if_neg h

lemma outcome_of_lastDayNumber_lt (hn : lastDayNumber < n) : Outcome n (fieldsOfDay n) := by
  refine Or.inr ⟨Width.signed64.greatest, fieldsOfDay_of_gt hn, Or.inr ⟨?_, by decide⟩⟩
  exact Int.lt_trans (by decide) hn

section

variable {g : Int} (hn : ¬lastDayNumber < n) (hg : (Gregorian.ofDayNumber n).year = g)
  (hyear : Gregorian.dayNumber g 1 1 ≤ n) (hnext : n < Gregorian.dayNumber (g + 1) 1 1)
include hn hg

include hnext in
/-- The Gregorian year of the day ends before the first run starts. -/
lemma outcome_of_lt_firstYear (hlow : g - 621 < firstYear) : Outcome n (fieldsOfDay n) := by
  have hstarting : yearStarting (Gregorian.ofDayNumber n).year = g - 621 := by
    rw [hg, yearStarting_of_ne (by simp only [firstYear, lastYear] at *; omega)]
  have hnot : ¬Supported (g - 621) := fun h => absurd h.1 (by omega)
  -- the first run starts in March 560, when the Gregorian year of the day is over
  have hend := newYear_mono (by simp only [firstYear] at hlow; omega : g + 1 ≤ 560)
  have hfirst : Gregorian.dayNumber 560 1 1 ≤ Calendar.jalali.firstDay := by decide
  exact Or.inr ⟨_, fieldsOfDay_of_not_supported hnot hn hstarting, Or.inl ⟨by omega, hlow⟩⟩

include hyear in
/-- The first months of the Gregorian year belong to the last year of the last run. -/
lemma outcome_of_eq_lastYear_add_one (hlast : g - 621 = lastYear + 1) :
    Outcome n (fieldsOfDay n) := by
  have hstarting : yearStarting (Gregorian.ofDayNumber n).year = lastYear := by
    rw [hg]
    exact if_pos hlast
  have hfirst : firstOf lastYear ≤ n := by
    have hstart : firstOf lastYear ≤ Gregorian.dayNumber 3799 1 1 := by decide
    have hg' : g = 3799 := by
      simp only [lastYear] at hlast
      omega
    rw [hg'] at hyear
    exact Int.le_trans hstart hyear
  rw [fieldsOfDay_of_not_before (by decide) hn hstarting, if_neg (by omega)]
  exact outcome_fieldsInYear (by decide) hfirst (fun h => absurd rfl h)

include hyear in
/-- The Gregorian year starts after the last run has ended. -/
lemma outcome_of_lastYear_lt (hhigh : lastYear + 1 < g - 621) : Outcome n (fieldsOfDay n) := by
  have hstarting : yearStarting (Gregorian.ofDayNumber n).year = g - 621 := by
    rw [hg, yearStarting_of_ne (by omega)]
  have hnot : ¬Supported (g - 621) := fun h => absurd h.2 (by omega)
  have hstart := newYear_mono (by simp only [lastYear] at hhigh; omega : 3800 ≤ g)
  have hlast : Calendar.jalali.lastDay < Gregorian.dayNumber 3800 1 1 := by decide
  exact Or.inr ⟨_, fieldsOfDay_of_not_supported hnot hn hstarting,
    Or.inr ⟨by omega, Int.lt_trans (Int.lt_succ _) hhigh⟩⟩

include hyear hnext in
/-- The year that starts in the Gregorian year lies in a run.  The day belongs to it or to the year
before, which may have no run. -/
lemma outcome_of_supported (h : Supported (g - 621)) : Outcome n (fieldsOfDay n) := by
  have hstarting : yearStarting (Gregorian.ofDayNumber n).year = g - 621 := by
    have := h.2
    rw [hg, yearStarting_of_ne (by omega)]
  rw [fieldsOfDay_of_not_before h hn hstarting]
  by_cases hbefore : n < firstOf (g - 621)
  · rw [if_pos hbefore]
    -- the year before is supported, unless it is that before the first run
    by_cases hfirst : g - 621 = firstYear
    · have hlow : g - 621 - 1 < firstYear := by omega
      have hnot : ¬Supported (g - 621 - 1) := fun h' => absurd h'.1 (by omega)
      rw [hfirst, ← firstDay_eq] at hbefore
      exact Or.inr ⟨_, fieldsInYear_of_not_supported hnot, Or.inl ⟨hbefore, hlow⟩⟩
    · have hpred : Supported (g - 621 - 1) := by
        simp only [Supported] at h ⊢
        omega
      have hstart := (firstOf_bounds hpred).2
      rw [show g - 621 - 1 + 622 = g by omega] at hstart
      refine outcome_fieldsInYear hpred (by omega) fun _ => ?_
      rwa [Int.sub_add_cancel]
  · rw [if_neg hbefore]
    refine outcome_fieldsInYear h (by omega) fun hne => ?_
    have hsucc : Supported (g - 621 + 1) := by
      simp only [Supported] at h ⊢
      omega
    have hstart := (firstOf_bounds hsucc).1
    rw [show g - 621 + 1 + 621 = g + 1 by omega] at hstart
    omega

end

/-- A day is found in its year, or lies before or after all runs. -/
lemma outcome_fieldsOfDay (n : Int) : Outcome n (fieldsOfDay n) := by
  by_cases hn : lastDayNumber < n
  · exact outcome_of_lastDayNumber_lt hn
  obtain ⟨hyear, hnext⟩ := gregorianYear_bounds n
  obtain ⟨g, hg⟩ : ∃ g, (Gregorian.ofDayNumber n).year = g := ⟨_, rfl⟩
  rw [hg] at hyear hnext
  by_cases hlow : g - 621 < firstYear
  · exact outcome_of_lt_firstYear hn hg hnext hlow
  by_cases hlast : g - 621 = lastYear + 1
  · exact outcome_of_eq_lastYear_add_one hn hg hyear hlast
  by_cases hhigh : lastYear + 1 < g - 621
  · exact outcome_of_lastYear_lt hn hg hyear hhigh
  exact outcome_of_supported hn hg hyear hnext ⟨by omega, by omega⟩

end PersianCalendar.Jalali
