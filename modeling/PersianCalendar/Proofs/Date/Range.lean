import PersianCalendar.Proofs.Date.Succession

/-!
# The days of the supported years

The days of the supported years of a calendar are those from `Calendar.firstDay` to
`Calendar.lastDay`.  A date lies between them (`Date.firstDay_le`, `Date.le_lastDay`), and a day that
exists in a year outside the supported ones lies on the side of its year
(`Calendar.beyond_of_not_supports`).
-/

namespace PersianCalendar

namespace Calendar

/-- The day number of the first day of the supported years. -/
def firstDay (c : Calendar) : Int :=
  c.dayNumber ⟨c.firstYear, 1, 1⟩

/-- The day number of the last day of the supported years. -/
def lastDay (c : Calendar) : Int :=
  c.dayNumber ⟨c.lastYear, 12, c.monthLength c.lastYear 12⟩

/-- The day number `n` lies before or after the supported years, and `year` on the same side. -/
def Beyond (c : Calendar) (n year : Int) : Prop :=
  n < c.firstDay ∧ year < c.firstYear ∨ c.lastDay < n ∧ c.lastYear < year

variable {c : Calendar}

lemma firstYear_le_lastYear (c : Calendar) : c.firstYear ≤ c.lastYear := by
  cases c <;> decide

lemma supports_firstYear (c : Calendar) : c.Supports c.firstYear :=
  ⟨Int.le_refl _, c.firstYear_le_lastYear⟩

lemma supports_lastYear (c : Calendar) : c.Supports c.lastYear :=
  ⟨c.firstYear_le_lastYear, Int.le_refl _⟩

lemma hasDay_last (c : Calendar) (year : Int) : c.HasDay ⟨year, 12, c.monthLength year 12⟩ :=
  ⟨⟨show (1 : Int) ≤ 12 by decide, Int.le_refl _⟩, c.monthLength_pos year 12 (by decide),
    Int.le_refl _⟩

lemma firstDay_le {f : Ymd} (hs : c.Supports f.year) (h : c.HasDay f) :
    c.firstDay ≤ c.dayNumber f := by
  have hyears := dayNumber_year_mono (.of_supports c.supports_firstYear) hs.1 (.of_supports hs)
  exact Int.le_trans hyears (dayNumber_year_first_le h)

/-- No day of a year comes after its last day. -/
lemma dayNumber_le_last {f : Ymd} (h : c.HasDay f) :
    c.dayNumber f ≤ c.dayNumber ⟨f.year, 12, c.monthLength f.year 12⟩ := by
  have hlast : c.dayNumber ⟨f.year, 12, c.monthLength f.year 12⟩ =
      c.dayNumber ⟨f.year, 12, 1⟩ + (c.monthLength f.year 12 - 1) := dayNumber_eq_first _ _
  rw [hlast]
  by_cases h12 : f.month = 12
  · have := dayNumber_lt_month_end h
    rw [h12] at this
    omega
  · have hlen := c.monthLength_pos f.year 12 (by decide)
    have := dayNumber_lt_month h (by have := h.1; omega : f.month < 12) (by decide)
    omega

lemma le_lastDay {f : Ymd} (hs : c.Supports f.year) (h : c.HasDay f) :
    c.dayNumber f ≤ c.lastDay := by
  by_cases hlast : f.year = c.lastYear
  · have := dayNumber_le_last h
    rwa [hlast] at this
  · have hlt : f.year < c.lastYear := Int.lt_iff_le_and_ne.2 ⟨hs.2, hlast⟩
    have hyear := dayNumber_lt_year h hlt (.of_supports hs) (.of_supports c.supports_lastYear)
    exact Int.le_of_lt (Int.lt_of_lt_of_le hyear (dayNumber_year_first_le (c.hasDay_last _)))

/-- A day of a year that is known and not supported lies on the side of its year. -/
lemma beyond_of_not_supports {f : Ymd} (h : c.HasDay f) (hknows : c.Knows f.year)
    (hs : ¬c.Supports f.year) : c.Beyond (c.dayNumber f) f.year := by
  by_cases hlow : f.year < c.firstYear
  · exact Or.inl ⟨dayNumber_lt_year h hlow hknows (.of_supports c.supports_firstYear), hlow⟩
  · have hhigh : c.lastYear < f.year := by
      simp only [Supports] at hs
      omega
    have hyear := dayNumber_lt_year (c.hasDay_last c.lastYear) hhigh
      (.of_supports c.supports_lastYear) hknows
    exact Or.inr ⟨Int.lt_of_lt_of_le hyear (dayNumber_year_first_le h), hhigh⟩

end Calendar

namespace Date

variable {c : Calendar} {d : Date c}

lemma Valid.firstDay_le (h : d.Valid) : c.firstDay ≤ d.dayNumber :=
  Calendar.firstDay_le h.1 h.2

lemma Valid.le_lastDay (h : d.Valid) : d.dayNumber ≤ c.lastDay :=
  Calendar.le_lastDay h.1 h.2

end Date

end PersianCalendar
