import Mathlib.Algebra.BigOperators.Intervals
import Mathlib.Data.Int.ConditionallyCompleteOrder
import Mathlib.Data.Int.Interval
import Mathlib.Data.Int.SuccPred
import PersianCalendar.Proofs.Date.NextDay
import PersianCalendar.Proofs.FixedWidth.DaySum

/-!
# Days and months outside their range

A day number can be asked for a day that its month does not have, and in the Gregorian calendar for a
month that no year has.  In both calendars a month starts after the days of the months before it
(`Calendar.dayNumber_eq_sum`), whatever the day, and so the day is found by moving the first of the
month (`Date.ofDayNumber_dayNumber_eq_addDays`).  A Gregorian month is first carried over into the
year (`Gregorian.dayNumber_carried`).
-/

namespace PersianCalendar

open FixedWidth (Checked)

variable {c : Calendar} {year month day : Int}

/-! ### From the first of a month -/

lemma Calendar.sum_monthLength_add_one (c : Calendar) (year : Int) (h : 1 ≤ month) :
    ∑ m ∈ Finset.Ico 1 (month + 1), c.monthLength year m =
      ∑ m ∈ Finset.Ico 1 month, c.monthLength year m + c.monthLength year month := by
  rw [← Finset.insert_Ico_right_eq_Ico_add_one h, Finset.sum_insert Finset.right_notMem_Ico,
    Int.add_comm]

/-- The days of a month come after those of the months before it, also the days that it does not
have. -/
lemma Calendar.dayNumber_eq_sum (c : Calendar) (year day : Int) (h1 : 1 ≤ month) (h12 : month ≤ 12) :
    c.dayNumber ⟨year, month, day⟩ = c.dayNumber ⟨year, 1, 1⟩ +
      ∑ m ∈ Finset.Ico 1 month, c.monthLength year m + (day - 1) := by
  rw [dayNumber_eq_first]
  -- on the month; each one adds the length of the one before
  induction month, h1 using Int.leInduction with
  | base => rw [Finset.Ico_self, Finset.sum_empty, Int.add_zero]
  | succ month hle ih =>
    have hbefore := ih (by omega)
    simp only at hbefore ⊢
    rw [c.dayNumber_add_month year ⟨hle, by omega⟩, c.sum_monthLength_add_one year hle]
    omega

namespace Date

lemma valid_first (hs : c.Supports year) (hm : 1 ≤ month ∧ month ≤ 12) :
    (⟨⟨year, month, 1⟩⟩ : Date c).Valid :=
  ⟨hs, hm, Int.le_refl _, c.monthLength_pos year month hm⟩

/-- A day of a month, which need not have it, is the first of the month moved on or back. -/
lemma ofDayNumber_dayNumber_eq_addDays
    (h : Width.signed64.Holds (c.dayNumber ⟨year, month, day⟩)) :
    ofDayNumber c (c.dayNumber ⟨year, month, day⟩) =
      (⟨⟨year, month, 1⟩⟩ : Date c).addDays (day - 1) := by
  rw [c.dayNumber_eq_first] at h ⊢
  exact (if_pos h).symm

end Date

/-! ### Gregorian months -/

namespace Gregorian

/-- The first day of a month, where months outside 1 to 12 belong to earlier or later years. -/
def firstOfMonth (year month : Int) : Ymd :=
  ⟨year + (month - 1) / 12, (month - 1) % 12 + 1, 1⟩

/-- The carry does not change the day. -/
lemma dayNumber_carried (year month day : Int) :
    dayNumber (firstOfMonth year month).year (firstOfMonth year month).month day =
      dayNumber year month day := by
  have hmonth : (month - 1) % 12 + 1 + 12 * ((month - 1) / 12) = month := by omega
  simp only [firstOfMonth, dayNumber_add_year, hmonth]

lemma dayNumber_eq_firstOfMonth (year month day : Int) :
    dayNumber year month day =
      dayNumber (firstOfMonth year month).year (firstOfMonth year month).month 1 + day - 1 := by
  have hfirst := Calendar.gregorian.dayNumber_eq_first ⟨year, month, day⟩
  simp only [Calendar.dayNumber] at hfirst
  rw [dayNumber_carried]
  omega

lemma firstOfMonth_month (year month : Int) :
    1 ≤ (firstOfMonth year month).month ∧ (firstOfMonth year month).month ≤ 12 := by
  simp only [firstOfMonth]
  omega

lemma valid_firstOfMonth (h : Width.signed32.Holds (firstOfMonth year month).year) :
    (⟨firstOfMonth year month⟩ : Date .gregorian).Valid :=
  Date.valid_first h (firstOfMonth_month year month)

/-- The date of a day of any month is the first of the month moved on or back. -/
lemma ofDayNumber_eq_addDays (h : Width.signed64.Holds (dayNumber year month day)) :
    Date.ofDayNumber .gregorian (dayNumber year month day) =
      (⟨firstOfMonth year month⟩ : Date .gregorian).addDays (day - 1) := by
  have hday : Calendar.gregorian.dayNumber { firstOfMonth year month with day } =
      dayNumber year month day := dayNumber_carried year month day
  rw [← hday] at h ⊢
  exact Date.ofDayNumber_dayNumber_eq_addDays h

end Gregorian

/-- The day number of any year, month and day is that of the first of the month, carried over into the
year, with the days from it on.  In words the same day numbers come out where no step faults, and then
a date is found for the sum, or refused, as the first of the month is moved. -/
theorem gregorian_fields_carry_over :
    (∀ year month day, Gregorian.dayNumber year month day =
      Gregorian.dayNumber (year + (month - 1) / 12) ((month - 1) % 12 + 1) 1 + day - 1) ∧
    (∀ year month day n, Width.signed64.Holds year → Width.signed64.Holds month →
      Width.signed64.Holds day → FixedWidth.Gregorian.dayNumber year month day = .ok n →
      (∀ first, FixedWidth.Gregorian.dayNumber (year + (month - 1) / 12) ((month - 1) % 12 + 1) 1 =
        .ok first → n = first + day - 1) ∧
      (Width.signed32.Holds (year + (month - 1) / 12) → Width.signed64.Holds (day - 1) →
        ∃ first : Date .gregorian,
          FixedWidth.Date.ofNarrowFields .gregorian
            ⟨year + (month - 1) / 12, (month - 1) % 12 + 1, 1⟩ = Checked.ofExcept (.ok first) ∧
          FixedWidth.Date.ofDayNumber .gregorian n = FixedWidth.Date.addDays first (day - 1) ∧
          FixedWidth.Date.addDays first (day - 1) =
            Checked.ofExcept (first.addDays (day - 1)))) := by
  refine ⟨Gregorian.dayNumber_eq_firstOfMonth, ?_⟩
  intro year month day n _ hmonth _ hn
  obtain ⟨-, hword, hexact⟩ := (FixedWidth.Gregorian.dayNumber_eq_ok_iff hmonth).1 hn
  rw [hexact] at hword
  rw [FixedWidth.Gregorian.exactDayNumber_eq] at hexact
  refine ⟨fun first hfirst => ?_, fun hyear _ => ?_⟩
  · rw [FixedWidth.Gregorian.eq_exactDayNumber_of_eq_ok hfirst,
      FixedWidth.Gregorian.exactDayNumber_eq, ← hexact]
    exact Gregorian.dayNumber_eq_firstOfMonth year month day
  · have hvalid := Gregorian.valid_firstOfMonth hyear
    have hmoved := FixedWidth.Date.addDays_eq hvalid (day - 1)
    refine ⟨⟨Gregorian.firstOfMonth year month⟩, ?_, ?_, hmoved⟩
    · have hfirst := Date.ofYmd_eq_ok_iff.2 ⟨hvalid, rfl⟩
      exact (FixedWidth.Date.ofNarrowFields_eq hvalid.2.holds .gregorian hyear).trans
        (congrArg _ hfirst)
    · rw [hmoved, FixedWidth.Date.ofDayNumber_eq .gregorian hword, ← hexact,
        Gregorian.ofDayNumber_eq_addDays (hexact.symm ▸ hword)]

/-- Month −22 of 2026 is February 2024, which has no day 30, and no date is found for the day after the
last Gregorian one. -/
theorem gregorian_fields_carry_over_months :
    (2460371 : Int) = 2460342 + 30 - 1 ∧
    (∃ first : Date .gregorian,
      FixedWidth.Date.ofNarrowFields .gregorian ⟨2024, 2, 1⟩ = Checked.ofExcept (.ok first) ∧
      FixedWidth.Date.ofDayNumber .gregorian 2460371 = FixedWidth.Date.addDays first 29 ∧
      FixedWidth.Date.addDays first 29 = Checked.ofExcept (first.addDays 29)) ∧
    (∃ first : Date .gregorian,
      FixedWidth.Date.ofNarrowFields .gregorian ⟨2147483647, 12, 1⟩ = Checked.ofExcept (.ok first) ∧
      FixedWidth.Date.ofDayNumber .gregorian 784354017365 = FixedWidth.Date.addDays first 31 ∧
      FixedWidth.Date.addDays first 31 = Checked.ofExcept (first.addDays 31)) := by
  obtain ⟨-, hwords⟩ := gregorian_fields_carry_over
  have hfebruary : FixedWidth.Gregorian.dayNumber 2026 (-22) 30 = .ok 2460371 := rfl
  have hlast : FixedWidth.Gregorian.dayNumber 2147483647 12 32 = .ok 784354017365 := rfl
  have h := hwords _ _ _ _ (by decide) (by decide) (by decide) hfebruary
  have h' := hwords _ _ _ _ (by decide) (by decide) (by decide) hlast
  exact ⟨h.1 2460342 rfl, h.2 (by decide) (by decide), h'.2 (by decide) (by decide)⟩

/-! ### Jalali days -/

namespace Jalali

lemma dayNumber_eq_sum (year day : Int) (hm : 1 ≤ month ∧ month ≤ 12) :
    Calendar.jalali.dayNumber ⟨year, month, day⟩ = (YearStart.approximate year).dayNumber +
      ∑ m ∈ Finset.Ico 1 month, Calendar.jalali.monthLength year m + (day - 1) := by
  rw [Calendar.dayNumber_eq_sum _ _ _ hm.1 hm.2, ← firstOf_eq, firstOf]

/-- The place of a day in its year comes after the lengths of the months before. -/
lemma dayOfYear_eq_sum (year day : Int) (hm : 1 ≤ month ∧ month ≤ 12) :
    dayOfYear month day =
      ∑ m ∈ Finset.Ico 1 month, Calendar.jalali.monthLength year m + (day - 1) := by
  have hday := dayNumber_eq_sum year day hm
  simp only [Calendar.dayNumber] at hday
  omega

lemma dayNumber_of_supported (h : Supported year) (month day : Int) :
    dayNumber year month day = .ok (Calendar.jalali.dayNumber ⟨year, month, day⟩) := by
  rw [dayNumber, YearStart.ofYear_of_supported h]
  rfl

lemma holds_dayNumber (year : Int) (hmonth : Width.signed32.Holds month)
    (hday : Width.signed32.Holds day) :
    Width.signed64.Holds (Calendar.jalali.dayNumber ⟨year, month, day⟩) := by
  have hfirst := FixedWidth.Jalali.firstOf_range year
  obtain ⟨-, hdays⟩ := FixedWidth.Jalali.dayOfYear_eq_ok hmonth hday
  simp only [firstOf] at hfirst
  simp [Calendar.dayNumber]
  omega

/-- The fields found for a day are those of its date. -/
lemma fieldsOfDay_eq_map (n : Int) :
    fieldsOfDay n = (Date.ofDayNumber .jalali n).map Date.toYmd := by
  rw [Date.jalali_eq_map]
  cases fieldsOfDay n <;> rfl

end Jalali

/-- A supported Jalali year, any of its months and any day: the day number comes after the first of the
year by the lengths of the months before and the day, and is that of the first of the month moved to
the day, a date or a refusal.  The days of a date are those of its place in the year. -/
theorem jalali_days_spill_over :
    (∀ year month day, -61 ≤ year → year ≤ 3177 → 1 ≤ month → month ≤ 12 →
      Width.signed32.Holds day → ∃ start n,
        Jalali.YearStart.ofYear year = .ok start ∧
        (∀ m, 1 ≤ m → m ≤ 12 →
          Jalali.daysInMonth year m = .ok (Calendar.jalali.monthLength year m)) ∧
        n = start.dayNumber + ∑ m ∈ Finset.Ico 1 month, Calendar.jalali.monthLength year m +
          (day - 1) ∧
        FixedWidth.Jalali.firstDay start = .ok start.dayNumber ∧
        FixedWidth.Jalali.dayNumber year month day = Checked.ofExcept (.ok n) ∧
        ∃ first : Date .jalali,
          FixedWidth.Date.ofNarrowFields .jalali ⟨year, month, 1⟩ = Checked.ofExcept (.ok first) ∧
          FixedWidth.Jalali.ofDayNumber n =
            Checked.ofExcept ((first.addDays (day - 1)).map Date.toYmd) ∧
          FixedWidth.Date.addDays first (day - 1) =
            Checked.ofExcept (first.addDays (day - 1))) ∧
    (∀ d : Date .jalali, d.Valid → ∃ start,
      Jalali.YearStart.ofYear d.year = .ok start ∧
      FixedWidth.Date.ordinal d = .ok d.ordinal ∧
      FixedWidth.Date.dayNumber d = .ok (start.dayNumber + d.ordinal - 1) ∧
      d.ordinal = d.day + ∑ m ∈ Finset.Ico 1 d.month, Calendar.jalali.monthLength d.year m) := by
  refine ⟨?_, ?_⟩
  · intro year month day hlow hhigh h1 h12 hday
    have hs : Jalali.Supported year := ⟨hlow, hhigh⟩
    have hm : 1 ≤ month ∧ month ≤ 12 := ⟨h1, h12⟩
    have hmonth : Width.signed32.Holds month :=
      ⟨Int.le_trans (by decide) h1, Int.le_trans h12 (by decide)⟩
    have hword := Jalali.holds_dayNumber year hmonth hday
    have hvalid : (⟨⟨year, month, 1⟩⟩ : Date .jalali).Valid := Date.valid_first hs hm
    refine ⟨_, Calendar.jalali.dayNumber ⟨year, month, day⟩, Jalali.YearStart.ofYear_of_supported hs,
      fun m hm1 hm12 => Jalali.daysInMonth_eq_ok hs ⟨hm1, hm12⟩,
      Jalali.dayNumber_eq_sum year day hm, FixedWidth.Jalali.firstDay_eq_ok year, ?_,
      ⟨⟨year, month, 1⟩⟩, ?_, ?_, FixedWidth.Date.addDays_eq hvalid (day - 1)⟩
    · rw [FixedWidth.Jalali.dayNumber_eq year hmonth hday, Jalali.dayNumber_of_supported hs]
    · rw [FixedWidth.Date.ofNarrowFields_eq hvalid.2.holds .jalali
        (FixedWidth.Jalali.holds_of_supported hs), Date.ofYmd_eq_ok_iff.2 ⟨hvalid, rfl⟩]
    · rw [FixedWidth.Jalali.ofDayNumber_eq hword, Jalali.fieldsOfDay_eq_map,
        Date.ofDayNumber_dayNumber_eq_addDays hword]
  · intro d hd
    have hordinal : d.ordinal = Jalali.dayOfYear d.month d.day + 1 := rfl
    refine ⟨_, Jalali.YearStart.ofYear_of_supported hd.1, FixedWidth.Date.ordinal_eq_ok hd, ?_, ?_⟩
    · rw [FixedWidth.Date.dayNumber_eq_ok hd, hordinal, ← Int.add_assoc, Int.add_sub_cancel]
      rfl
    · rw [hordinal, Jalali.dayOfYear_eq_sum d.year d.day hd.2.1]
      omega

/-- Day 31 of the last month of a leap year is the first day of the next year. -/
theorem jalali_days_spill_over_leap_year :
    FixedWidth.Jalali.dayNumber 1403 12 31 = Checked.ofExcept (.ok 2460756) ∧
    (∃ first : Date .jalali,
      FixedWidth.Date.ofNarrowFields .jalali ⟨1403, 12, 1⟩ = Checked.ofExcept (.ok first) ∧
      FixedWidth.Jalali.ofDayNumber 2460756 =
        Checked.ofExcept ((first.addDays 30).map Date.toYmd)) ∧
    (⟨⟨1403, 12, 30⟩⟩ : Date .jalali).ordinal =
      30 + ∑ m ∈ Finset.Ico 1 12, Calendar.jalali.monthLength 1403 m := by
  obtain ⟨hdays, hdates⟩ := jalali_days_spill_over
  obtain ⟨start, n, hstart, -, hn, -, hday, first, hfirst, hmoved, -⟩ :=
    hdays 1403 12 31 (by decide) (by decide) (by decide) (by decide) (by decide)
  cases hstart
  have hn' : n = 2460756 := hn.trans (by decide)
  rw [hn'] at hday hmoved
  obtain ⟨-, -, -, -, hordinal⟩ := hdates ⟨⟨1403, 12, 30⟩⟩ (by decide)
  exact ⟨hday, ⟨first, hfirst, hmoved⟩, hordinal⟩

end PersianCalendar
