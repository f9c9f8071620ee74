import PersianCalendar.Date.Conversion
import PersianCalendar.Proofs.Date.DayNumber
import PersianCalendar.Proofs.Outcome

/-!
# Conversion keeps the day

A date and its conversion have one day number (`Date.convert_eq_ok_iff`,
`Date.dayNumber_toGregorian`).  On bare fields both conversions find the same pairs, those of
`Ymd.SameDay`, each from its own side.
-/

namespace PersianCalendar

open Outcome

namespace Date

variable {c target : Calendar}

/-- The conversion of a date is the date of the same day in the other calendar. -/
lemma convert_eq_ok_iff {d : Date c} {e : Date target} :
    d.convert target = .ok e ↔ e.Valid ∧ e.dayNumber = d.dayNumber :=
  ofDayNumber_eq_ok_iff

/-! ### From the Jalali to the Gregorian calendar -/

lemma dayNumber_toGregorian (d : Date .jalali) : d.toGregorian.dayNumber = d.dayNumber :=
  Gregorian.dayNumber_ofDayNumber d.dayNumber

/-- The Gregorian years in which the Jalali dates lie. -/
lemma year_toGregorian {d : Date .jalali} (h : d.Valid) :
    560 ≤ d.toGregorian.year ∧ d.toGregorian.year ≤ 3799 := by
  have hfirst := h.firstDay_le
  have hlast := h.le_lastDay
  obtain ⟨hyear, hnext⟩ := Jalali.gregorianYear_bounds d.dayNumber
  have hlow : Gregorian.dayNumber 560 1 1 ≤ Calendar.jalali.firstDay := by decide
  have hhigh : Calendar.jalali.lastDay < Gregorian.dayNumber 3800 1 1 := by decide
  show 560 ≤ (Gregorian.ofDayNumber d.dayNumber).year ∧
    (Gregorian.ofDayNumber d.dayNumber).year ≤ 3799
  -- a day of another Gregorian year would lie outside all runs
  constructor
  · by_contra hlt
    have := Jalali.newYear_mono
      (by omega : (Gregorian.ofDayNumber d.dayNumber).year + 1 ≤ 560)
    omega
  · by_contra hlt
    have := Jalali.newYear_mono
      (by omega : 3800 ≤ (Gregorian.ofDayNumber d.dayNumber).year)
    omega

/-- Every Jalali date has a Gregorian one. -/
lemma valid_toGregorian {d : Date .jalali} (h : d.Valid) : d.toGregorian.Valid := by
  obtain ⟨hlow, hhigh⟩ := year_toGregorian h
  exact ⟨⟨Int.le_trans (by decide) hlow, Int.le_trans hhigh (by decide)⟩,
    Gregorian.ofDayNumber_month _, Gregorian.ofDayNumber_day _⟩

lemma toGregorian_eq_iff {d : Date .jalali} (h : d.Valid) {e : Date .gregorian} :
    d.toGregorian = e ↔ e.Valid ∧ e.dayNumber = d.dayNumber := by
  constructor
  · rintro rfl
    exact ⟨valid_toGregorian h, dayNumber_toGregorian d⟩
  · rintro ⟨he, hday⟩
    exact dayNumber_injective (valid_toGregorian h) he ((dayNumber_toGregorian d).trans hday.symm)

end Date

namespace Ymd

/-- The Jalali fields `f` and the Gregorian fields `g` are those of two dates of one day. -/
def SameDay (f g : Ymd) : Prop :=
  ∃ (d : Date .jalali) (e : Date .gregorian),
    d.Valid ∧ e.Valid ∧ d.dayNumber = e.dayNumber ∧ d.toYmd = f ∧ e.toYmd = g

variable {f g : Ymd}

lemma toGregorian_eq_ok_iff : f.toGregorian = .ok g ↔ f.SameDay g := by
  constructor
  · intro h
    obtain ⟨d, hd, h⟩ := bind_eq_ok.1 h
    cases h
    obtain ⟨hvalid, hfields⟩ := Date.ofYmd_eq_ok_iff.1 hd
    exact ⟨d, d.toGregorian, hvalid, Date.valid_toGregorian hvalid,
      (Date.dayNumber_toGregorian d).symm, hfields, rfl⟩
  · rintro ⟨d, e, hd, he, hday, rfl, rfl⟩
    obtain rfl := (Date.toGregorian_eq_iff hd).2 ⟨he, hday.symm⟩
    exact bind_eq_ok.2 ⟨d, Date.ofYmd_eq_ok_iff.2 ⟨hd, rfl⟩, rfl⟩

lemma toJalali_eq_ok_iff : g.toJalali = .ok f ↔ f.SameDay g := by
  constructor
  · intro h
    obtain ⟨e, he, h⟩ := bind_eq_ok.1 h
    obtain ⟨d, hd, h⟩ := bind_eq_ok.1 h
    cases h
    obtain ⟨hvalid, hfields⟩ := Date.ofYmd_eq_ok_iff.1 he
    obtain ⟨hdvalid, hday⟩ := Date.convert_eq_ok_iff.1 hd
    exact ⟨d, e, hdvalid, hvalid, hday, rfl, hfields⟩
  · rintro ⟨d, e, hd, he, hday, rfl, rfl⟩
    have hconvert := Date.convert_eq_ok_iff.2 ⟨hd, hday⟩
    exact bind_eq_ok.2 ⟨e, Date.ofYmd_eq_ok_iff.2 ⟨he, rfl⟩, bind_eq_ok.2 ⟨d, hconvert, rfl⟩⟩

end Ymd

end PersianCalendar
