import PersianCalendar.Date.DayNumber
import PersianCalendar.FixedWidth.Gregorian
import PersianCalendar.Proofs.FixedWidth.Step
import PersianCalendar.Proofs.Gregorian.Split

/-!
# Gregorian day numbers in words of 64 bits

For years of some ten digits `dayNumber` does not fault, and `ofDayNumber` faults for no day number
but the last ones, which `ofDayNumber?` leaves out.  Their formulas are those of a machine; the
results are the exact ones.
-/

namespace PersianCalendar.FixedWidth.Gregorian

open PersianCalendar.Gregorian (daysBeforeMonth ofYearDay)

/-! ### From fields to day numbers -/

/-- The exact day number, by the formula that carries months before March into the year before. -/
lemma dayNumber_by_carry {year month day carry : Int} (h : (14 - month) / 12 = carry) :
    PersianCalendar.Gregorian.dayNumber year month day =
      day + (153 * (month + 12 * carry - 3) + 2) / 5 + 365 * (year + 4800 - carry)
        + (year + 4800 - carry) / 4 - (year + 4800 - carry) / 100 + (year + 4800 - carry) / 400
        - 32045 := by
  have hdiv : (month - 3) / 12 = -carry := by omega
  have hmod : (month - 3) % 12 = month + 12 * carry - 3 := by omega
  simp only [PersianCalendar.Gregorian.dayNumber, PersianCalendar.Gregorian.daysBeforeMarch,
    PersianCalendar.Gregorian.leapYearsThrough, daysBeforeMonth,
    PersianCalendar.Gregorian.countOrigin, hdiv, hmod]
  rw [show year + -carry + 4800 = year + 4800 - carry by omega]
  omega

lemma dayNumber_eq_ok {year month day : Int} (hyear : -10000000000 ≤ year ∧ year ≤ 10000000000)
    (hmonth : 1 ≤ month ∧ month ≤ 12) (hday : -10000000000 ≤ day ∧ day ≤ 10000000000) :
    dayNumber year month day = .ok (PersianCalendar.Gregorian.dayNumber year month day) := by
  obtain ⟨carry, hcarry, hc⟩ : ∃ carry, (14 - month) / 12 = carry ∧ 0 ≤ carry ∧ carry ≤ 1 :=
    ⟨_, rfl, by omega⟩
  obtain ⟨line, hline, hl⟩ : ∃ line, (153 * (month + 12 * carry - 3) + 2) / 5 = line ∧
      0 ≤ line ∧ line ≤ 337 := ⟨_, rfl, by omega⟩
  obtain ⟨counted, hcounted, hy⟩ : ∃ counted, year + 4800 - carry = counted ∧
      -10000004801 ≤ counted ∧ counted ≤ 10000004800 := ⟨_, rfl, by omega⟩
  rw [dayNumber_by_carry hcarry, hline, hcounted]
  simp only [dayNumber]
  rw [step64_eq (by omega) (by omega), ok_bind, hcarry]
  clear hcarry
  rw [step64_eq (by omega) (by omega), ok_bind, step64_eq (by omega) (by omega), ok_bind, hcounted]
  clear hcounted
  iterate 5 rw [step64_eq (by omega) (by omega), ok_bind]
  rw [hline]
  clear hline
  simp (disch := omega) only [step64_eq, ok_bind]

/-! ### From day numbers to fields -/

/-- The number of whole parts of a cycle, of which there are at most four when the last one may be a
day longer. -/
lemma threeQuarters_eq_ok {parts : Int} (h : 0 ≤ parts ∧ parts ≤ 4) :
    threeQuarters parts = .ok (min parts 3) := by
  have hmin : (parts + 1) * 3 / 4 = min parts 3 := by omega
  simp (disch := omega) only [threeQuarters, step64_eq, ok_bind, hmin]
  rfl

/-- The month and the day are found from the day of the year by formulas with other constants. -/
lemma ofYearDay_eq {year inYear month : Int} (h : (5 * inYear + 308) / 153 - 2 = month) :
    ofYearDay year inYear =
      { year := year + (month + 2) / 12
        month := (month + 2) % 12 + 1
        day := inYear - (month + 4) * 153 / 5 + 122 + 1 } := by
  have hmonth : (5 * inYear + 2) / 153 = month := by omega
  simp only [ofYearDay, hmonth, daysBeforeMonth, Ymd.mk.injEq, true_and]
  omega

lemma ofDayNumber_eq_ok {n : Int} (h1 : -9223372036854775808 ≤ n)
    (h2 : n ≤ 9223372036854775807 - shift) :
    ofDayNumber n = .ok (PersianCalendar.Gregorian.ofDayNumber n) := by
  simp only [shift] at h2
  obtain ⟨cycles, hcycles, hb1⟩ : ∃ cycles, (n + 32044) / 146097 = cycles ∧
      -100000000000000 ≤ cycles ∧ cycles ≤ 100000000000000 := ⟨_, rfl, by omega⟩
  obtain ⟨inCycle, hinCycle, hb2⟩ : ∃ inCycle, (n + 32044) % 146097 = inCycle ∧
      0 ≤ inCycle ∧ inCycle < 146097 := ⟨_, rfl, by omega⟩
  obtain ⟨centuries, hcenturies, hb3⟩ : ∃ centuries, min (inCycle / 36524) 3 = centuries ∧
      0 ≤ centuries ∧ centuries ≤ 3 := ⟨_, rfl, by omega⟩
  obtain ⟨inCentury, hinCentury, hb4⟩ : ∃ inCentury, inCycle - centuries * 36524 = inCentury ∧
      0 ≤ inCentury ∧ inCentury ≤ 36524 := ⟨_, rfl, by omega⟩
  obtain ⟨fours, hfours, hb5⟩ : ∃ fours, inCentury / 1461 = fours ∧ 0 ≤ fours ∧ fours ≤ 24 :=
    ⟨_, rfl, by omega⟩
  obtain ⟨inFour, hinFour, hb6⟩ : ∃ inFour, inCentury % 1461 = inFour ∧ 0 ≤ inFour ∧
      inFour < 1461 := ⟨_, rfl, by omega⟩
  obtain ⟨years, hyears, hb7⟩ : ∃ years, min (inFour / 365) 3 = years ∧ 0 ≤ years ∧ years ≤ 3 :=
    ⟨_, rfl, by omega⟩
  obtain ⟨inYear, hinYear, hb8⟩ : ∃ inYear, inFour - years * 365 = inYear ∧ 0 ≤ inYear ∧
      inYear ≤ 365 := ⟨_, rfl, by omega⟩
  obtain ⟨month, hmonth, hb9⟩ : ∃ month, (5 * inYear + 308) / 153 - 2 = month ∧ 0 ≤ month ∧
      month ≤ 11 := ⟨_, rfl, by omega⟩
  have hexact : PersianCalendar.Gregorian.ofDayNumber n =
      ofYearDay (400 * cycles + 100 * centuries + 4 * fours + years - 4800) inYear := by
    subst hcycles hinCycle hcenturies hinCentury hfours hinFour hyears hinYear
    rfl
  rw [hexact, ofYearDay_eq hmonth]
  clear hexact
  simp only [ofDayNumber, shift]
  -- an equation is dropped once it is used, so that the bounds of the steps stay small problems
  rw [step64_eq (by omega) (by omega), ok_bind, hcycles, hinCycle]
  clear hcycles hinCycle h1 h2
  rw [threeQuarters_eq_ok (by omega), ok_bind, hcenturies]
  clear hcenturies
  rw [step64_eq (by omega) (by omega), ok_bind, step64_eq (by omega) (by omega), ok_bind, hinCentury,
    hfours, hinFour]
  clear hinCentury hfours hinFour
  rw [threeQuarters_eq_ok (by omega), ok_bind, hyears]
  clear hyears
  rw [step64_eq (by omega) (by omega), ok_bind, step64_eq (by omega) (by omega), ok_bind, hinYear]
  clear hinYear
  simp (disch := omega) only [step64_eq, ok_bind, hmonth]
  rw [Int.mul_comm cycles, Int.mul_comm centuries, Int.mul_comm fours]
  rfl

/-- The day numbers left out are those whose fields are not looked for in the exact computation. -/
lemma ofDayNumber?_eq_ok {n : Int} (h : Width.signed64.Holds n) :
    ofDayNumber? n =
      .ok (if lastDayNumber < n then none else some (PersianCalendar.Gregorian.ofDayNumber n)) := by
  have hlast : Width.signed64.greatest - shift = lastDayNumber := rfl
  simp only [ofDayNumber?, hlast]
  by_cases hn : lastDayNumber < n
  · rw [if_pos hn, if_pos hn]
    rfl
  · rw [if_neg hn, if_neg hn, ofDayNumber_eq_ok h.1 (Int.not_lt.1 hn)]
    rfl

/-- A day number that is left out is refused with the greatest year of its width. -/
lemma bound_of_gt {n : Int} (h : lastDayNumber < n) :
    Width.signed64.bound n = Width.signed64.greatest :=
  if_neg (Int.not_lt.2 (Int.le_trans (by decide) (Int.le_of_lt h)))

end PersianCalendar.FixedWidth.Gregorian
