import PersianCalendar.Proofs.FixedWidth.Date

/-!
# The order of dates is the order of their days

Dates are compared by their fields, the year first, and the day numbers of valid dates are compared
with the same outcome (`Date.compare_eq_compare_dayNumber`).  So an earlier date is an earlier day,
and two dates are one exactly if they have one day number.
-/

namespace PersianCalendar

namespace Date

variable {c : Calendar} {d e : Date c}

lemma lt_iff_before : d < e ↔ d.toYmd.Before e.toYmd :=
  lt_iff

lemma compare_eq_eq_iff : compare d e = .eq ↔ d = e := by
  obtain ⟨⟨year, month, day⟩⟩ := d
  obtain ⟨⟨year', month', day'⟩⟩ := e
  simp only [compare, Ordering.then_eq_eq, Int.compare_eq_eq, mk.injEq, Ymd.mk.injEq, and_assoc]

section

variable (hd : d.Valid) (he : e.Valid)
include hd he

lemma lt_iff_dayNumber_lt : d < e ↔ d.dayNumber < e.dayNumber := by
  have hdk : c.Knows d.year := .of_supports hd.1
  have hek : c.Knows e.year := .of_supports he.1
  rw [lt_iff_before]
  exact ⟨Calendar.dayNumber_lt_of_before hd.2 he.2 hdk hek,
    Calendar.before_of_dayNumber_lt hd.2 he.2 hdk hek⟩

lemma eq_iff_dayNumber_eq : d = e ↔ d.dayNumber = e.dayNumber :=
  ⟨congrArg dayNumber, dayNumber_injective hd he⟩

/-- Two dates are compared as their day numbers are. -/
lemma compare_eq_compare_dayNumber : compare d e = Ord.compare d.dayNumber e.dayNumber := by
  have hlt : compare d e = .lt ↔ d.dayNumber < e.dayNumber := lt_iff_dayNumber_lt hd he
  have heq := compare_eq_eq_iff.trans (eq_iff_dayNumber_eq hd he)
  -- of the three outcomes two are known, so the third one is left for the later date
  cases hc : compare d e with
  | lt => exact (Int.compare_eq_lt.2 (hlt.1 hc)).symm
  | eq => exact (Int.compare_eq_eq.2 (heq.1 hc)).symm
  | gt =>
    rw [hc] at hlt heq
    simp only [reduceCtorEq, false_iff] at hlt heq
    exact (Int.compare_eq_gt.2 (by omega)).symm

end

end Date

lemma AnyDate.eq_iff_dayNumber_eq {d e : AnyDate} (hd : d.Valid) (he : e.Valid)
    (h : d.calendar = e.calendar) : d = e ↔ d.dayNumber = e.dayNumber := by
  obtain ⟨c, d⟩ := d
  obtain ⟨_, e⟩ := e
  subst h
  rw [AnyDate.mk.injEq]
  simp only [heq_eq_eq, true_and]
  exact Date.eq_iff_dayNumber_eq hd he

/-- Comparing two dates of a calendar is comparing their days: the earlier fields have the smaller day
number, and equal day numbers mean equal dates.  The day numbers computed in words are the same. -/
theorem order_chronological :
    (∀ (c : Calendar) (d e : Date c), d.Valid → e.Valid →
      d.compare e = Ord.compare d.dayNumber e.dayNumber ∧
      (d < e ↔ d.dayNumber < e.dayNumber) ∧ (d = e ↔ d.dayNumber = e.dayNumber)) ∧
    (∀ d e : AnyDate, d.Valid → e.Valid → d.calendar = e.calendar →
      (d = e ↔ d.dayNumber = e.dayNumber)) ∧
    (∀ (c : Calendar) (d : Date c), d.Valid →
      FixedWidth.Date.dayNumber d = .ok d.dayNumber) := by
  refine ⟨?_, ?_, ?_⟩
  · intro c d e hd he
    exact ⟨Date.compare_eq_compare_dayNumber hd he, Date.lt_iff_dayNumber_lt hd he,
      Date.eq_iff_dayNumber_eq hd he⟩
  · intro d e hd he h
    exact AnyDate.eq_iff_dayNumber_eq hd he h
  · intro c d hd
    exact FixedWidth.Date.dayNumber_eq_ok hd

/-- A leap day of a year before year 0 and the day after it, and the last day of a Jalali leap year and
the day after it. -/
theorem order_chronological_leap_days :
    (⟨⟨-400, 2, 29⟩⟩ : Date .gregorian) < ⟨⟨-400, 3, 1⟩⟩ ∧
    (⟨⟨1404, 1, 1⟩⟩ : Date .jalali).compare ⟨⟨1403, 12, 30⟩⟩ = .gt ∧
    (⟨.jalali, ⟨⟨1403, 12, 30⟩⟩⟩ : AnyDate) ≠ ⟨.jalali, ⟨⟨1404, 1, 1⟩⟩⟩ ∧
    FixedWidth.Date.dayNumber (⟨⟨-400, 2, 29⟩⟩ : Date .gregorian) = .ok 1575022 := by
  obtain ⟨hdates, hany, hwords⟩ := order_chronological
  have hleap : (⟨⟨-400, 2, 29⟩⟩ : Date .gregorian).Valid := by decide
  have hmarch : (⟨⟨-400, 3, 1⟩⟩ : Date .gregorian).Valid := by decide
  have hesfand : (⟨⟨1403, 12, 30⟩⟩ : Date .jalali).Valid := by decide
  have hfarvardin : (⟨⟨1404, 1, 1⟩⟩ : Date .jalali).Valid := by decide
  refine ⟨(hdates _ _ _ hleap hmarch).2.1.2 (by decide), ?_, ?_, hwords _ _ hleap⟩
  · rw [(hdates _ _ _ hfarvardin hesfand).1]
    decide
  · rw [Ne, hany ⟨.jalali, _⟩ ⟨.jalali, _⟩ hesfand hfarvardin rfl]
    decide

end PersianCalendar
