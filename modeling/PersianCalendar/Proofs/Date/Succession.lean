import Mathlib.Data.Int.Init
import PersianCalendar.Date.DayNumber
import PersianCalendar.Date.Order
import PersianCalendar.Proofs.Jalali.Months
import PersianCalendar.Proofs.Jalali.Nowruz

/-!
# Days, months and years in their order

What the two calendars have in common, said once for both: a day comes one after the day before it,
the first of a month comes after all days of the month before, and the first of a year after all
days of the year before.  From these three laws alone it follows that the day numbers grow with the
fields, the year first (`dayNumber_lt_of_before`), so that a day number belongs to one day only
(`eq_of_dayNumber_eq`), and that the day numbers are counted on by `Ymd.next`
(`dayNumber_next`).
-/

namespace PersianCalendar

/-- The fields `f` come before the fields `g`, the year being compared first. -/
def Ymd.Before (f g : Ymd) : Prop :=
  f.year < g.year ∨ f.year = g.year ∧
    (f.month < g.month ∨ f.month = g.month ∧ f.day < g.day)

/-- The fields of the day after a day of a month of `length` days. -/
def Ymd.next (length : Int) (f : Ymd) : Ymd :=
  if f.day < length then ⟨f.year, f.month, f.day + 1⟩
  else if f.month < 12 then ⟨f.year, f.month + 1, 1⟩
  else ⟨f.year + 1, 1, 1⟩

lemma Ymd.before_trichotomy (f g : Ymd) : f.Before g ∨ f = g ∨ g.Before f := by
  obtain ⟨year, month, day⟩ := f
  obtain ⟨year', month', day'⟩ := g
  simp only [Ymd.Before, Ymd.mk.injEq]
  omega

namespace Calendar

/-- The years of which the calendar knows the length.  Of the Gregorian calendar these are all
years, also those that no date has. -/
def Knows : Calendar → Int → Prop
  | jalali, year => Jalali.Supported year
  | gregorian, _ => True

variable {c : Calendar} {year month : Int}

lemma Knows.of_supports (h : c.Supports year) : c.Knows year := by
  cases c
  · exact h
  · trivial

lemma Knows.of_le_of_le {first last : Int} (hf : c.Knows first) (hl : c.Knows last)
    (h1 : first ≤ year) (h2 : year ≤ last) : c.Knows year := by
  cases c
  · exact ⟨Int.le_trans hf.1 h1, Int.le_trans h2 hl.2⟩
  · trivial

lemma monthLength_pos (c : Calendar) (year month : Int) (h : 1 ≤ month ∧ month ≤ 12) :
    1 ≤ c.monthLength year month := by
  cases c with
  | jalali =>
    have := (Jalali.monthLength_bounds (isLeapYear .jalali year) month).1
    simp only [monthLength]
    omega
  | gregorian =>
    have := (Gregorian.monthLength_bounds h : _ ≤ Gregorian.monthLength year month ∧ _).1
    simp only [monthLength]
    omega

/-! ### The three laws -/

lemma dayNumber_add_day (c : Calendar) (year month day k : Int) :
    c.dayNumber ⟨year, month, day + k⟩ = c.dayNumber ⟨year, month, day⟩ + k := by
  cases c with
  | jalali => simp only [dayNumber, Jalali.dayOfYear_add_day, Int.add_assoc]
  | gregorian => exact Gregorian.dayNumber_add_day year month day k

/-- The first of a month comes after all days of the month before. -/
lemma dayNumber_add_month (c : Calendar) (year : Int) (h : 1 ≤ month ∧ month < 12) :
    c.dayNumber ⟨year, month + 1, 1⟩ = c.dayNumber ⟨year, month, 1⟩ + c.monthLength year month := by
  cases c with
  | jalali =>
    simp only [dayNumber, monthLength, Int.add_assoc,
      Jalali.dayOfYear_add_month (isLeapYear .jalali year) h]
  | gregorian => exact Gregorian.dayNumber_add_month year ⟨h.1, by omega⟩

/-- The first of a year comes after all days of the year before. -/
lemma dayNumber_add_year (h : c.Knows year) (h' : c.Knows (year + 1)) :
    c.dayNumber ⟨year + 1, 1, 1⟩ = c.dayNumber ⟨year, 12, 1⟩ + c.monthLength year 12 := by
  cases c with
  | jalali =>
    simp only [dayNumber, monthLength, Int.add_assoc, Jalali.dayOfYear_twelve,
      Jalali.dayOfYear_one_one, isLeapYear, Int.add_zero]
    exact Jalali.YearStart.dayNumber_add_one h h'
  | gregorian => exact Gregorian.dayNumber_add_one_year year

/-! ### Day numbers grow with the fields -/

lemma dayNumber_eq_first (c : Calendar) (f : Ymd) :
    c.dayNumber f = c.dayNumber ⟨f.year, f.month, 1⟩ + (f.day - 1) := by
  rw [← dayNumber_add_day, show 1 + (f.day - 1) = f.day by omega]

/-- A day of a month comes before the first of the next month. -/
lemma dayNumber_lt_month_end {f : Ymd} (h : c.HasDay f) :
    c.dayNumber f < c.dayNumber ⟨f.year, f.month, 1⟩ + c.monthLength f.year f.month := by
  have hday := h.2
  rw [dayNumber_eq_first]
  omega

lemma dayNumber_month_mono (c : Calendar) (year month : Int) {later : Int} (h1 : 1 ≤ month)
    (h : month ≤ later) (h12 : later ≤ 12) :
    c.dayNumber ⟨year, month, 1⟩ ≤ c.dayNumber ⟨year, later, 1⟩ := by
  induction later, h using Int.leInduction with
  | base => exact Int.le_refl _
  | succ later hle ih =>
    have hlen := c.monthLength_pos year later (by omega)
    have := ih (by omega)
    rw [c.dayNumber_add_month year (by omega)]
    omega

/-- The first of January, or of Farvardin, comes before all firsts of later years. -/
lemma dayNumber_year_mono {later : Int} (hknows : c.Knows year) (h : year ≤ later)
    (hlater : c.Knows later) : c.dayNumber ⟨year, 1, 1⟩ ≤ c.dayNumber ⟨later, 1, 1⟩ := by
  induction later, h using Int.leInduction with
  | base => exact Int.le_refl _
  | succ later hle ih =>
    have hk : c.Knows later := hknows.of_le_of_le hlater hle (by omega)
    have hlen := c.monthLength_pos later 12 (by decide)
    have hmonths := c.dayNumber_month_mono later 1 (by decide) (by decide : (1 : Int) ≤ 12)
      (by decide)
    have := ih hk
    rw [dayNumber_add_year hk hlater]
    omega

/-- A day of a year comes before the first of a later month of the same year. -/
lemma dayNumber_lt_month {f : Ymd} (hf : c.HasDay f) {later : Int} (h : f.month < later)
    (h12 : later ≤ 12) : c.dayNumber f < c.dayNumber ⟨f.year, later, 1⟩ := by
  have hend := dayNumber_lt_month_end hf
  have hmonths := c.dayNumber_month_mono f.year (f.month + 1) (by have := hf.1; omega)
    (by omega : f.month + 1 ≤ later) h12
  rw [c.dayNumber_add_month f.year ⟨hf.1.1, by omega⟩] at hmonths
  omega

/-- A day of a year comes before the first of a later year. -/
lemma dayNumber_lt_year {f : Ymd} (hf : c.HasDay f) {later : Int} (h : f.year < later)
    (hknows : c.Knows f.year) (hlater : c.Knows later) :
    c.dayNumber f < c.dayNumber ⟨later, 1, 1⟩ := by
  have hk : c.Knows (f.year + 1) := hknows.of_le_of_le hlater (by omega) (by omega)
  have hyears := dayNumber_year_mono hk (by omega : f.year + 1 ≤ later) hlater
  rw [dayNumber_add_year hknows hk] at hyears
  have hend : c.dayNumber f < c.dayNumber ⟨f.year, 12, 1⟩ + c.monthLength f.year 12 := by
    by_cases h12 : f.month = 12
    · rw [← h12]
      exact dayNumber_lt_month_end hf
    · have hlen := c.monthLength_pos f.year 12 (by decide)
      have := dayNumber_lt_month hf (by have := hf.1; omega : f.month < 12) (by decide)
      omega
  omega

lemma dayNumber_first_le {f : Ymd} (hf : c.HasDay f) :
    c.dayNumber ⟨f.year, f.month, 1⟩ ≤ c.dayNumber f := by
  have := hf.2
  rw [c.dayNumber_eq_first f]
  omega

lemma dayNumber_year_first_le {f : Ymd} (hf : c.HasDay f) :
    c.dayNumber ⟨f.year, 1, 1⟩ ≤ c.dayNumber f := by
  have hmonths := c.dayNumber_month_mono f.year 1 (by decide) hf.1.1 hf.1.2
  have := dayNumber_first_le hf
  omega

/-- Day numbers grow with the fields. -/
lemma dayNumber_lt_of_before {f g : Ymd} (hf : c.HasDay f) (hg : c.HasDay g)
    (hfk : c.Knows f.year) (hgk : c.Knows g.year) (h : f.Before g) :
    c.dayNumber f < c.dayNumber g := by
  rcases h with h | ⟨hyear, h | ⟨hmonth, h⟩⟩
  · exact Int.lt_of_lt_of_le (dayNumber_lt_year hf h hfk hgk) (dayNumber_year_first_le hg)
  · have := dayNumber_lt_month hf h hg.1.2
    rw [hyear] at this
    exact Int.lt_of_lt_of_le this (dayNumber_first_le hg)
  · rw [c.dayNumber_eq_first f, c.dayNumber_eq_first g, hyear, hmonth]
    omega

/-- A day number belongs to one day of a calendar only. -/
lemma eq_of_dayNumber_eq {f g : Ymd} (hf : c.HasDay f) (hg : c.HasDay g)
    (hfk : c.Knows f.year) (hgk : c.Knows g.year) (h : c.dayNumber f = c.dayNumber g) : f = g := by
  rcases f.before_trichotomy g with hlt | heq | hgt
  · have := dayNumber_lt_of_before hf hg hfk hgk hlt
    omega
  · exact heq
  · have := dayNumber_lt_of_before hg hf hgk hfk hgt
    omega

/-! ### The next day -/

lemma hasDay_next {f : Ymd} (h : c.HasDay f) : c.HasDay (f.next (c.monthLength f.year f.month)) := by
  obtain ⟨hmonth, hday⟩ := h
  simp only [Ymd.next]
  split
  · exact ⟨hmonth, by simp only; omega⟩
  · split
    · have hm : 1 ≤ f.month + 1 ∧ f.month + 1 ≤ 12 := by omega
      exact ⟨hm, Int.le_refl _, c.monthLength_pos _ _ hm⟩
    · have hm : (1 : Int) ≤ 1 ∧ (1 : Int) ≤ 12 := by decide
      exact ⟨hm, Int.le_refl _, c.monthLength_pos _ _ hm⟩

/-- The next day has the next day number. -/
lemma dayNumber_next {f : Ymd} (h : c.HasDay f) (hknows : c.Knows f.year)
    (hnext : c.Knows (f.next (c.monthLength f.year f.month)).year) :
    c.dayNumber (f.next (c.monthLength f.year f.month)) = c.dayNumber f + 1 := by
  have hfirst := c.dayNumber_eq_first f
  have hbounds := h
  obtain ⟨hmonth, hday⟩ := hbounds
  simp only [Ymd.next] at hnext ⊢
  split
  · rw [dayNumber_add_day]
  · split
    · -- the last day of a month that is not the last
      have hstep := c.dayNumber_add_month f.year ⟨hmonth.1, ‹f.month < 12›⟩
      omega
    · -- the last day of the year
      have h12 : f.month = 12 := by omega
      have hlast : ¬f.day < c.monthLength f.year f.month := ‹_›
      rw [if_neg ‹_›, if_neg ‹_›] at hnext
      have hstep := dayNumber_add_year hknows hnext
      rw [h12] at hfirst hlast hday
      omega

/-- Days that come later have later fields. -/
lemma before_of_dayNumber_lt {f g : Ymd} (hf : c.HasDay f) (hg : c.HasDay g)
    (hfk : c.Knows f.year) (hgk : c.Knows g.year) (h : c.dayNumber f < c.dayNumber g) :
    f.Before g := by
  rcases f.before_trichotomy g with hlt | rfl | hgt
  · exact hlt
  · omega
  · have := dayNumber_lt_of_before hg hf hgk hfk hgt
    omega

/-- After the last day of a year that is not the last one known comes a day of the next year. -/
lemma knows_next {f g : Ymd} (hf : c.HasDay f) (hg : c.HasDay g) (hfk : c.Knows f.year)
    (hgk : c.Knows g.year) (h : c.dayNumber f < c.dayNumber g) :
    c.Knows (f.next (c.monthLength f.year f.month)).year := by
  have hbefore := before_of_dayNumber_lt hf hg hfk hgk h
  by_cases hday : f.day < c.monthLength f.year f.month
  · rwa [Ymd.next, if_pos hday]
  by_cases hmonth : f.month < 12
  · rwa [Ymd.next, if_neg hday, if_pos hmonth]
  rw [Ymd.next, if_neg hday, if_neg hmonth]
  -- `f` is the last day of its year, so what comes later lies in another year
  have hlater : f.year < g.year := by
    rcases hbefore with hyear | ⟨hyear, hm | ⟨hm, hd⟩⟩
    · exact hyear
    · have := hg.1.2
      omega
    · have hle := hg.2.2
      rw [← hyear, ← hm] at hle
      omega
  exact hfk.of_le_of_le hgk (by simp only; omega) hlater

/-- The fields of two days, one after the other. -/
lemma eq_next {f g : Ymd} (hf : c.HasDay f) (hg : c.HasDay g) (hfk : c.Knows f.year)
    (hgk : c.Knows g.year) (h : c.dayNumber g = c.dayNumber f + 1) :
    g = f.next (c.monthLength f.year f.month) := by
  have hnext := knows_next hf hg hfk hgk (by omega)
  exact eq_of_dayNumber_eq hg (hasDay_next hf) hgk hnext
    (h.trans (dayNumber_next hf hfk hnext).symm)

end Calendar

end PersianCalendar
