import PersianCalendar.Proofs.Gregorian.Months

/-!
# The Gregorian fields of a day number

`ofDayNumber` splits a day number into a year that is counted from March and a day of that year,
and then the day of the year into a month and a day.  The two halves are taken apart here:

* `exists_marchYear`: the cycles of 400, 100, 4 and 1 years find the year in which the day lies;
* `ofYearDay`: the fields of a day of such a year, with `dayNumber_ofYearDay` and
  `ofYearDay_month` and `ofYearDay_day` on what they are.

Together they say that the fields found for `n` are those of a day that exists and has the number
`n`: `dayNumber_ofDayNumber`, `ofDayNumber_month`, `ofDayNumber_day`.
-/

namespace PersianCalendar.Gregorian

/-! ### Days of a year that is counted from March -/

/-- The fields of the day that comes `days` days after 1 March of a year. -/
def ofYearDay (year days : Int) : Ymd :=
  let month := (5 * days + 2) / 153
  { year := year + (month + 2) / 12
    month := (month + 2) % 12 + 1
    day := days - daysBeforeMonth month + 1 }

/-- The days of a year that is counted from 1 March of `year`. -/
def marchYearLength (year : Int) : Int :=
  365 + if IsLeapYear (year + 1) then 1 else 0

lemma marchYearLength_bounds (year : Int) :
    365 ≤ marchYearLength year ∧ marchYearLength year ≤ 366 := by
  simp only [marchYearLength]
  split <;> omega

/-- A day of the year lies in the month that the line through the months gives for it. -/
lemma daysBeforeMonth_bounds {days : Int} (h : 0 ≤ days ∧ days < 366) :
    (0 ≤ (5 * days + 2) / 153 ∧ (5 * days + 2) / 153 ≤ 11) ∧
      daysBeforeMonth ((5 * days + 2) / 153) ≤ days ∧
      days < daysBeforeMonth ((5 * days + 2) / 153 + 1) := by
  simp only [daysBeforeMonth]
  omega

lemma dayNumber_ofYearDay {year days : Int} (h : 0 ≤ days ∧ days < 366) :
    let f := ofYearDay year days
    dayNumber f.year f.month f.day = daysBeforeMarch year + days + countOrigin + 1 := by
  obtain ⟨hm, -⟩ := daysBeforeMonth_bounds h
  simp only [ofYearDay]
  generalize (5 * days + 2) / 153 = month at hm
  have hdiv : year + (month + 2) / 12 + ((month + 2) % 12 + 1 - 3) / 12 = year := by omega
  have hmod : ((month + 2) % 12 + 1 - 3) % 12 = month := by omega
  simp only [dayNumber, hdiv, hmod]
  omega

lemma ofYearDay_month (year : Int) {days : Int} (h : 0 ≤ days ∧ days < 366) :
    1 ≤ (ofYearDay year days).month ∧ (ofYearDay year days).month ≤ 12 := by
  obtain ⟨hm, -⟩ := daysBeforeMonth_bounds h
  simp only [ofYearDay]
  omega

/-- The day found in a month exists. -/
lemma ofYearDay_day {year days : Int} (h : 0 ≤ days ∧ days < marchYearLength year) :
    let f := ofYearDay year days
    1 ≤ f.day ∧ f.day ≤ monthLength f.year f.month := by
  have hlen := marchYearLength_bounds year
  have hdays : 0 ≤ days ∧ days < 366 := by omega
  obtain ⟨hm, hle, hlt⟩ := daysBeforeMonth_bounds hdays
  have hrange := ofYearDay_month year hdays
  simp only [ofYearDay] at hrange ⊢
  generalize (5 * days + 2) / 153 = month at hm hle hlt hrange
  refine ⟨by omega, ?_⟩
  by_cases hfeb : month = 11
  · -- February, counted as the last month, is as long as the year leaves it
    subst hfeb
    have hbefore : daysBeforeMonth 11 = 337 := by decide
    have hshape : year + ((11 : Int) + 2) / 12 = year + 1 := by omega
    rw [hshape, show ((11 : Int) + 2) % 12 + 1 = 2 by decide, monthLength_two, hbefore]
    simp only [marchYearLength] at h
    omega
  · rw [monthLength_of_ne_two _ hrange (by omega),
      show ((month + 2) % 12 + 1 - 3) % 12 = month by omega]
    omega

/-! ### Cycles of years -/

/-- The days of whole years, from the numbers of cycles of 400, 100, 4 and 1 years. -/
lemma daysBeforeMarch_cycles {a b c d : Int} (hb : 0 ≤ b ∧ b ≤ 3) (hc : 0 ≤ c ∧ c ≤ 24)
    (hd : 0 ≤ d ∧ d ≤ 3) :
    daysBeforeMarch (400 * a + 100 * b + 4 * c + d - 4800) =
      daysOf400 * a + daysOf100 * b + daysOf4 * c + daysOf1 * d := by
  have h4 : (400 * a + 100 * b + 4 * c + d) / 4 = 100 * a + 25 * b + c := by omega
  have h100 : (400 * a + 100 * b + 4 * c + d) / 100 = 4 * a + b := by omega
  have h400 : (400 * a + 100 * b + 4 * c + d) / 400 = a := by omega
  simp only [daysBeforeMarch, Int.sub_add_cancel, leapYearsThrough, h4, h100, h400, daysOf400,
    daysOf100, daysOf4, daysOf1]
  omega

/-- A year counted from March has 366 days when it is the last of a cycle of four years, unless it
is also the last of a cycle of a hundred years and not of one of four hundred. -/
lemma marchYearLength_cycles {a b c d : Int} (hb : 0 ≤ b ∧ b ≤ 3) (hc : 0 ≤ c ∧ c ≤ 24)
    (hd : 0 ≤ d ∧ d ≤ 3) :
    marchYearLength (400 * a + 100 * b + 4 * c + d - 4800) =
      365 + if d = 3 ∧ (c = 24 → b = 3) then 1 else 0 := by
  have hleap : IsLeapYear (400 * a + 100 * b + 4 * c + d - 4800 + 1) ↔
      d = 3 ∧ (c = 24 → b = 3) := by
    simp only [IsLeapYear]
    omega
  simp only [marchYearLength, hleap]

/-- Every day lies in one year that is counted from March, and the cycles of years find it. -/
lemma exists_marchYear (n : Int) :
    ∃ year days, ofDayNumber n = ofYearDay year days ∧
      (0 ≤ days ∧ days < marchYearLength year) ∧
      n = daysBeforeMarch year + days + countOrigin + 1 := by
  let count := n - (countOrigin + 1)
  let century := quarter daysOf100 (count % daysOf400)
  let single := quarter daysOf1 (century.2 % daysOf4)
  refine ⟨400 * (count / daysOf400) + 100 * century.1 + 4 * (century.2 / daysOf4) + single.1 - 4800,
    single.2, rfl, ?_⟩
  have hcount : count = daysOf400 * (count / daysOf400) + count % daysOf400 :=
    (Int.mul_ediv_add_emod _ _).symm
  have hcycle : 0 ≤ count % daysOf400 ∧ count % daysOf400 < daysOf400 :=
    ⟨Int.emod_nonneg _ (by decide), Int.emod_lt_of_pos _ (by decide)⟩
  -- what is left of the cycle of 400 years, then of the cycle of four years
  have hcentury : century.1 = min (count % daysOf400 / daysOf100) 3 ∧
      century.2 = count % daysOf400 - century.1 * daysOf100 := ⟨rfl, rfl⟩
  have hsingle : single.1 = min (century.2 % daysOf4 / daysOf1) 3 ∧
      single.2 = century.2 % daysOf4 - single.1 * daysOf1 := ⟨rfl, rfl⟩
  have hn : n = count + countOrigin + 1 := by omega
  generalize century.1 = b, century.2 = inCentury, single.1 = d, single.2 = days
    at hcentury hsingle ⊢
  simp only [daysOf400, daysOf100, daysOf4, daysOf1] at hcount hcycle hcentury hsingle ⊢
  generalize count / 146097 = a at hcount ⊢
  generalize count % 146097 = inCycle at hcount hcycle hcentury
  have hb : 0 ≤ b ∧ b ≤ 3 := by omega
  have hc : 0 ≤ inCentury / 1461 ∧ inCentury / 1461 ≤ 24 := by omega
  have hd : 0 ≤ d ∧ d ≤ 3 := by omega
  rw [marchYearLength_cycles hb hc hd, daysBeforeMarch_cycles hb hc hd]
  simp only [daysOf400, daysOf100, daysOf4, daysOf1]
  refine ⟨⟨by omega, ?_⟩, by omega⟩
  split <;> omega

/-! ### The fields of a day number -/

/-- The fields found for a day number have that day number. -/
lemma dayNumber_ofDayNumber (n : Int) :
    dayNumber (ofDayNumber n).year (ofDayNumber n).month (ofDayNumber n).day = n := by
  obtain ⟨year, days, hfields, hdays, hn⟩ := exists_marchYear n
  have hlen := marchYearLength_bounds year
  rw [hfields, dayNumber_ofYearDay (by omega)]
  exact hn.symm

lemma ofDayNumber_month (n : Int) :
    1 ≤ (ofDayNumber n).month ∧ (ofDayNumber n).month ≤ 12 := by
  obtain ⟨year, days, hfields, hdays, -⟩ := exists_marchYear n
  have hlen := marchYearLength_bounds year
  rw [hfields]
  exact ofYearDay_month year (by omega)

lemma ofDayNumber_day (n : Int) :
    1 ≤ (ofDayNumber n).day ∧
      (ofDayNumber n).day ≤ monthLength (ofDayNumber n).year (ofDayNumber n).month := by
  obtain ⟨year, days, hfields, hdays, -⟩ := exists_marchYear n
  rw [hfields]
  exact ofYearDay_day hdays

end PersianCalendar.Gregorian
