import PersianCalendar.Proofs.FixedWidth.YearStart
import PersianCalendar.Proofs.Jalali.Fields

/-!
# Jalali day numbers in words of 32 and 64 bits

For fields of 32 bits `dayNumber` gives the exact day number, and for day numbers of 64 bits
`ofDayNumber` the exact fields; both refuse what is refused in the exact computation, and neither
faults.
-/

namespace PersianCalendar.FixedWidth.Jalali

open PersianCalendar.Jalali

/-! ### From fields to day numbers -/

/-- The product in the count of days is that of two numbers of 32 bits. -/
lemma weeksProduct_bounds {month : Int} (h : Width.signed32.Holds month) :
    -1000000000000000000 ≤ month / 7 * (month - 7) ∧
      month / 7 * (month - 7) ≤ 1000000000000000000 := by
  obtain ⟨hlow, hhigh⟩ : -2147483648 ≤ month ∧ month ≤ 2147483647 := h
  have hmul := Nat.mul_le_mul (by omega : (month / 7).natAbs ≤ 306783379)
    (by omega : (month - 7).natAbs ≤ 2147483655)
  rw [← Int.natAbs_mul] at hmul
  omega

lemma dayOfYear_eq_ok {month day : Int} (hmonth : Width.signed32.Holds month)
    (hday : Width.signed32.Holds day) :
    dayOfYear month day = .ok (PersianCalendar.Jalali.dayOfYear month day) ∧
      -2000000000000000000 ≤ PersianCalendar.Jalali.dayOfYear month day ∧
      PersianCalendar.Jalali.dayOfYear month day ≤ 2000000000000000000 := by
  have hproduct := weeksProduct_bounds hmonth
  obtain ⟨hlow, hhigh⟩ : -2147483648 ≤ month ∧ month ≤ 2147483647 := hmonth
  obtain ⟨hdlow, hdhigh⟩ : -2147483648 ≤ day ∧ day ≤ 2147483647 := hday
  simp only [dayOfYear, PersianCalendar.Jalali.dayOfYear]
  iterate 3 rw [step64_eq (by omega) (by omega), ok_bind]
  generalize month / 7 * (month - 7) = product at *
  refine ⟨?_, by omega, by omega⟩
  simp (disch := omega) only [step64_eq, ok_bind]

/-- The first days of the years, also of those taken to start on 20 March. -/
lemma firstOf_range (year : Int) :
    -2000000000000 ≤ firstOf year ∧ firstOf year ≤ 2000000000000 := by
  obtain ⟨⟨hlow, hhigh⟩, hmarch⟩ := approximate_bounds year
  simp only [Width.least, Width.greatest] at hlow hhigh
  simp only [firstOf, YearStart.dayNumber]
  rw [Gregorian.dayNumber_by_carry rfl]
  omega

/-- Year, month and day are those of 32 bits, and need not be a date. -/
lemma dayNumber_eq (year : Int) {month day : Int} (hmonth : Width.signed32.Holds month)
    (hday : Width.signed32.Holds day) :
    dayNumber year month day =
      Checked.ofExcept (PersianCalendar.Jalali.dayNumber year month day) := by
  obtain ⟨hdays, hlow, hhigh⟩ := dayOfYear_eq_ok hmonth hday
  have hfirst := firstOf_range year
  simp only [dayNumber, yearStart_eq, PersianCalendar.Jalali.dayNumber]
  by_cases h : Supported year
  · rw [YearStart.ofYear_of_supported h, Checked.ofExcept_ok_bind, firstDay_eq_ok,
      Checked.lift_ok_bind, hdays, Checked.lift_ok_bind]
    simp only [firstOf] at hfirst
    rw [step64_eq (by omega) (by omega)]
    rfl
  · rw [YearStart.ofYear_of_not_supported h]
    rfl

/-! ### From day numbers to fields -/

@[simp] lemma yearLength_eq_ok (start : YearStart) :
    step64 (365 + if start.isLeap then 1 else 0) = .ok start.length := by
  simp only [YearStart.length]
  split <;> rfl

/-- The day is split like in the exact computation, also when it comes some years before the first. -/
lemma fieldsAfter_of_lt (year : Int) {start : YearStart} {days : Int} (hlow : -10000000 ≤ days)
    (h : days < start.length) :
    fieldsAfter year start.isLeap days =
      Checked.ofExcept (.ok ⟨year, (monthDay days).1, (monthDay days).2⟩) := by
  have hlength := start.length_bounds
  have hsplit : firstHalfDays = 186 := rfl
  simp [fieldsAfter]
  rw [if_neg (by omega)]
  rcases Int.lt_or_le days 186 with hhalf | hhalf
  · rw [if_pos (by omega), monthDay_of_lt hhalf]
    simp (disch := omega) only [step64_eq, step32_eq, Checked.lift_ok_bind]
  · rw [if_neg (by omega), monthDay_of_le hhalf, hsplit]
    simp (disch := omega) only [step64_eq, step32_eq, Checked.lift_ok_bind]

lemma fieldsAfter_of_le {year : Int} (hyear : Supported year) {start : YearStart} {days : Int}
    (h : start.length ≤ days) :
    fieldsAfter year start.isLeap days = Checked.ofExcept (.error (.unsupportedYear (year + 1))) := by
  obtain ⟨hlow, hhigh⟩ : -61 ≤ year ∧ year ≤ 3177 := hyear
  simp [fieldsAfter]
  rw [if_pos h, step64_eq (by omega) (by omega)]
  rfl

/-- The fields of a day are looked for in a year as in the exact search. -/
lemma fieldsAfter_eq {year n : Int} (h : Supported year) (hn : Width.signed64.Holds n)
    (hfirst : firstOf year - 10000000 ≤ n) :
    (liftM (step64 (n - firstOf year)) >>= fieldsAfter year (YearStart.approximate year).isLeap) =
      Checked.ofExcept (fieldsInYear year n) := by
  obtain ⟨hlow, hhigh⟩ : -9223372036854775808 ≤ n ∧ n ≤ 9223372036854775807 := hn
  have hpositive : 0 ≤ firstOf year :=
    Int.le_trans (by decide) (firstOf_mono (by decide : Supported (-61)) h.1 h)
  rw [step64_eq (by omega) (by omega), Checked.lift_ok_bind]
  by_cases hin : n < firstOf year + lengthOf year
  · rw [fieldsAfter_of_lt year (by omega) (Int.sub_left_lt_of_lt_add hin),
      fieldsInYear_eq_ok h hin]
  · rw [fieldsAfter_of_le h (Int.le_sub_left_of_add_le (Int.not_lt.1 hin)),
      fieldsInYear_of_le h (Int.not_lt.1 hin)]

/-- The search goes back to the year before, which need not be supported. -/
lemma yearBefore_eq {year n : Int} (h : Supported year) (hn : Width.signed64.Holds n)
    (hfirst : firstOf year - 10000000 ≤ n) :
    (do
      let year ← (liftM (step32 (year - 1)) : Checked DateError Int)
      let start ← yearStart year
      fieldsAfter year start.isLeap (← step64 (n - (← firstDay start)))) =
      Checked.ofExcept (fieldsInYear (year - 1) n) := by
  obtain ⟨hlow, hhigh⟩ : -61 ≤ year ∧ year ≤ 3177 := id h
  rw [step32_eq (by omega) (by omega), Checked.lift_ok_bind, yearStart_eq]
  by_cases hbefore : Supported (year - 1)
  · have hlength := firstOf_add_one hbefore (by rwa [Int.sub_add_cancel])
    have hpositive := (YearStart.approximate (year - 1)).length_bounds
    rw [Int.sub_add_cancel] at hlength
    rw [YearStart.ofYear_of_supported hbefore, Checked.ofExcept_ok_bind, firstDay_eq_ok]
    exact fieldsAfter_eq hbefore hn (by simp only [lengthOf] at hlength; omega)
  · rw [YearStart.ofYear_of_not_supported hbefore,
      fieldsInYear_of_not_supported hbefore]
    rfl

lemma holds_of_supported {year : Int} (h : Supported year) : Width.signed32.Holds year :=
  ⟨Int.le_trans (by decide) h.1, Int.le_trans h.2 (by decide)⟩

lemma candidateYear_eq {gregorianYear : Int}
    (h : -100000000000000000 ≤ gregorianYear ∧ gregorianYear ≤ 100000000000000000) :
    candidateYear gregorianYear =
      Checked.ofExcept (if Width.signed32.Holds (gregorianYear - 621) then
        .ok (yearStarting gregorianYear) else .error (.unsupportedYear (gregorianYear - 621))) := by
  simp only [candidateYear, yearOffset]
  rw [step64_eq (by omega) (by omega), Checked.lift_ok_bind]
  by_cases hholds : Width.signed32.Holds (gregorianYear - 621)
  · rw [if_neg (not_not_intro hholds), if_pos hholds]
    have hend : (¬Supported (gregorianYear - 621) ∧ Width.signed32.Holds (gregorianYear - 621 - 1) ∧
        Supported (gregorianYear - 621 - 1)) ↔ gregorianYear - 621 = lastYear + 1 := by
      simp [Supported, firstYear, lastYear]
      omega
    by_cases hlast : gregorianYear - 621 = lastYear + 1
    · have hyear : yearStarting gregorianYear = gregorianYear - 621 - 1 := by
        rw [hlast, Int.add_sub_cancel]
        exact if_pos hlast
      rw [if_pos (hend.2 hlast), hyear]
      rfl
    · have hyear : yearStarting gregorianYear = gregorianYear - 621 := if_neg hlast
      rw [if_neg (mt hend.1 hlast), hyear]
      rfl
  · rw [if_pos hholds, if_neg hholds]
    rfl

/-- The Gregorian years of the day numbers of 64 bits have some seventeen digits. -/
lemma gregorianYear_range {n : Int} (h : Width.signed64.Holds n) :
    -100000000000000000 ≤ (PersianCalendar.Gregorian.ofDayNumber n).year ∧
      (PersianCalendar.Gregorian.ofDayNumber n).year ≤ 100000000000000000 := by
  obtain ⟨hlow, hhigh⟩ : -9223372036854775808 ≤ n ∧ n ≤ 9223372036854775807 := h
  obtain ⟨hyear, hnext⟩ := gregorianYear_bounds n
  rw [Gregorian.dayNumber_by_carry rfl] at hyear hnext
  omega

/-- Where the year found is supported, the day lies in the first years after year 560, or later. -/
lemma le_of_supported {n year : Int}
    (hyear : yearStarting (PersianCalendar.Gregorian.ofDayNumber n).year = year)
    (h : Supported year) : firstOf year - 10000000 ≤ n := by
  obtain ⟨hstart, -⟩ := gregorianYear_bounds n
  obtain ⟨g, hg⟩ : ∃ g, (PersianCalendar.Gregorian.ofDayNumber n).year = g := ⟨_, rfl⟩
  rw [hg] at hyear hstart
  have hg560 : 560 ≤ g := by
    obtain ⟨hlow, -⟩ : -61 ≤ year ∧ year ≤ 3177 := h
    by_cases hlast : g - 621 = lastYear + 1
    · simp only [lastYear] at hlast
      omega
    · rw [yearStarting_of_ne hlast] at hyear
      omega
  -- both the day and the start of the year lie between the years 560 and 3799
  have hmono := newYear_mono hg560
  have hn : (0 : Int) ≤ PersianCalendar.Gregorian.dayNumber 560 1 1 := by decide
  have hfirst := (firstOf_bounds h).2
  have hlast := newYear_mono
    (by obtain ⟨-, hhigh⟩ := h; simp only [lastYear] at hhigh; omega : year + 622 ≤ 3799)
  have hlimit : PersianCalendar.Gregorian.dayNumber 3799 1 1 ≤ 10000000 := by decide
  omega

/-- For every day number the words hold what the exact search finds, and the same days are refused
with the same years. -/
lemma ofDayNumber_eq {n : Int} (h : Width.signed64.Holds n) :
    ofDayNumber n = Checked.ofExcept (fieldsOfDay n) := by
  have hwords := Gregorian.ofDayNumber?_eq_ok h
  have hcandidate := candidateYear_eq (gregorianYear_range h)
  simp only [ofDayNumber, hwords, Checked.lift_ok_bind]
  by_cases hn : lastDayNumber < n
  · rw [if_pos hn, fieldsOfDay_of_gt hn, ← Gregorian.bound_of_gt hn]
    rfl
  rw [if_neg hn]
  simp only [hcandidate]
  obtain ⟨year, hyear⟩ :
      ∃ year, yearStarting (PersianCalendar.Gregorian.ofDayNumber n).year = year := ⟨_, rfl⟩
  by_cases hholds : Width.signed32.Holds ((PersianCalendar.Gregorian.ofDayNumber n).year - 621)
  · rw [if_pos hholds, Checked.ofExcept_ok_bind, hyear, yearStart_eq]
    by_cases hs : Supported year
    · have hle := le_of_supported hyear hs
      rw [fieldsOfDay_of_not_before hs hn hyear,
        YearStart.ofYear_of_supported hs, Checked.ofExcept_ok_bind, firstDay_eq_ok,
        Checked.lift_ok_bind]
      show (if n < firstOf year then _ else _) = _
      by_cases hbefore : n < firstOf year
      · rw [if_pos hbefore, if_pos hbefore]
        exact yearBefore_eq hs h hle
      · rw [if_neg hbefore, if_neg hbefore]
        exact fieldsAfter_eq hs h hle
    · rw [fieldsOfDay_of_not_supported hs hn hyear,
        YearStart.ofYear_of_not_supported hs]
      rfl
  · -- a year that does not fit in 32 bits is no supported year
    have hne : (PersianCalendar.Gregorian.ofDayNumber n).year - 621 ≠ lastYear + 1 := by
      intro hlast
      rw [hlast] at hholds
      exact hholds (by decide)
    rw [yearStarting_of_ne hne] at hyear
    rw [if_neg hholds, hyear]
    rw [hyear] at hholds
    have hs : ¬Supported year := fun h => hholds (holds_of_supported h)
    rw [fieldsOfDay_of_not_supported hs hn
      (by rw [yearStarting_of_ne hne, hyear])]
    rfl

end PersianCalendar.FixedWidth.Jalali
