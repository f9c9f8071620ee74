import PersianCalendar.FixedWidth.Date
import PersianCalendar.Proofs.Date.Conversion
import PersianCalendar.Proofs.FixedWidth.Jalali

/-!
# Dates in words of fixed width

Everything that is done with dates gives in words what it gives in exact integers, as long as what
goes in has the width of its words: fields of 32 bits, day numbers of 64 bits, dates that are valid.
-/

namespace PersianCalendar

/-! ### Widths of fields -/

/-- The year, the month and the day have 32 bits each. -/
def Ymd.Fits32 (f : Ymd) : Prop :=
  Width.signed32.Holds f.year ∧ Width.signed32.Holds f.month ∧ Width.signed32.Holds f.day

instance (f : Ymd) : Decidable f.Fits32 :=
  inferInstanceAs (Decidable (_ ∧ _))

lemma Date.Valid.fits32 {c : Calendar} {d : Date c} (h : d.Valid) : d.toYmd.Fits32 := by
  have hwiden : ∀ n, Width.unsigned8.Holds n → Width.signed32.Holds n := by
    intro n hn
    exact ⟨Int.le_trans (by decide) hn.1, Int.le_trans hn.2 (by decide)⟩
  have hyear : Width.signed32.Holds d.year := by
    cases c with
    | jalali => exact FixedWidth.Jalali.holds_of_supported h.1
    | gregorian => exact h.1
  exact ⟨hyear, hwiden _ h.2.holds.1, hwiden _ h.2.holds.2⟩

lemma Ymd.SameDay.fits32 {f g : Ymd} (h : f.SameDay g) : f.Fits32 ∧ g.Fits32 := by
  obtain ⟨d, e, hd, he, -, rfl, rfl⟩ := h
  exact ⟨hd.fits32, he.fits32⟩

namespace FixedWidth

/-! ### Month lengths -/

lemma item_eq_ok {α : Type} {table : List α} {place : Int}
    (h : 0 ≤ place ∧ place < (table.length : Int)) (default : α) :
    item table place = .ok (table.getD place.toNat default) := by
  have hlt : place.toNat < table.length := by omega
  simp only [item, if_neg (Int.not_lt.2 h.1), List.getD_eq_getElem?_getD,
    List.getElem?_eq_getElem hlt, Option.getD_some]

lemma Gregorian.monthLength_eq_ok (year : Int) {month : Int} (h : 1 ≤ month ∧ month ≤ 12) :
    monthLength year month = .ok (PersianCalendar.Gregorian.monthLength year month) := by
  have hlen : PersianCalendar.Gregorian.monthLengths.length = 12 := rfl
  rw [monthLength, if_neg (by omega), PersianCalendar.Gregorian.monthLength,
    item_eq_ok (by omega) 0]
  split <;> rfl

lemma Jalali.monthLength_eq_ok (isLeap : Bool) {month : Int} (h : 1 ≤ month ∧ month ≤ 12) :
    monthLength isLeap month = .ok (PersianCalendar.Jalali.monthLength isLeap month) :=
  if_neg (by omega)

namespace Date

open PersianCalendar (Date)
open PersianCalendar.Jalali (YearStart)

variable {c : Calendar}

/-! ### Dates from fields -/

lemma narrow_eq_ok {f : Ymd} (h : c.HasDay f) : narrow f = .ok f := by
  obtain ⟨hmonth, hday⟩ := h.holds
  simp [narrow, step8_eq hmonth.1 hmonth.2, step8_eq hday.1 hday.2]

lemma not_hasDay_of_month {f : Ymd} (h : f.month = 0 ∨ 12 < f.month) : ¬c.HasDay f := by
  rintro ⟨hmonth, -⟩
  omega

lemma not_hasDay_of_day {f : Ymd} (h : f.day < 1 ∨ c.monthLength f.year f.month < f.day) :
    ¬c.HasDay f := by
  rintro ⟨-, hday⟩
  omega

lemma hasDay_of_not {f : Ymd} (h0 : 0 ≤ f.month) (hm : ¬(f.month = 0 ∨ 12 < f.month))
    (hd : ¬(f.day < 1 ∨ c.monthLength f.year f.month < f.day)) : c.HasDay f :=
  ⟨by omega, by omega⟩

section

variable {f : Ymd} (hwidth : Width.unsigned8.Holds f.month ∧ Width.unsigned8.Holds f.day)
include hwidth

lemma ofNarrowFields_jalali :
    ofNarrowFields .jalali f = Checked.ofExcept (PersianCalendar.Date.ofYmd .jalali f) := by
  have hmonth : 0 ≤ f.month := hwidth.1.1
  rw [PersianCalendar.Date.ofYmd, if_neg (not_not_intro hwidth)]
  by_cases hs : Calendar.jalali.Supports f.year
  · rw [if_neg (not_not_intro hs)]
    simp only [ofNarrowFields, Jalali.yearStart_eq, YearStart.ofYear_of_supported hs,
      Checked.ofExcept_ok_bind]
    by_cases hm : f.month = 0 ∨ 12 < f.month
    · rw [if_pos hm, if_neg (not_hasDay_of_month hm)]
      rfl
    rw [if_neg hm, Jalali.monthLength_eq_ok _ (by omega), Checked.lift_ok_bind]
    by_cases hd : f.day < 1 ∨ Calendar.jalali.monthLength f.year f.month < f.day
    · rw [if_neg (not_hasDay_of_day hd)]
      exact if_pos hd
    · rw [if_pos (hasDay_of_not hmonth hm hd)]
      exact if_neg hd
  · rw [if_pos hs]
    simp only [ofNarrowFields, Jalali.yearStart_eq, YearStart.ofYear_of_not_supported hs]
    rfl

lemma ofNarrowFields_gregorian (h : Width.signed32.Holds f.year) :
    ofNarrowFields .gregorian f = Checked.ofExcept (PersianCalendar.Date.ofYmd .gregorian f) := by
  have hmonth : 0 ≤ f.month := hwidth.1.1
  have hs : Calendar.gregorian.Supports f.year := h
  rw [PersianCalendar.Date.ofYmd, if_neg (not_not_intro hwidth), if_neg (not_not_intro hs)]
  simp only [ofNarrowFields]
  by_cases hm : f.month = 0 ∨ 12 < f.month
  · rw [if_pos (by omega), if_neg (not_hasDay_of_month hm)]
    rfl
  by_cases hd : f.day < 1
  · rw [if_pos (by omega), if_neg (not_hasDay_of_day (Or.inl hd))]
    rfl
  rw [if_neg (by omega), Gregorian.monthLength_eq_ok f.year (by omega), Checked.lift_ok_bind]
  by_cases hlength : Calendar.gregorian.monthLength f.year f.month < f.day
  · rw [if_neg (not_hasDay_of_day (Or.inr hlength))]
    exact if_pos hlength
  · rw [if_pos (hasDay_of_not hmonth hm (by omega))]
    exact if_neg hlength

lemma ofNarrowFields_eq (c : Calendar) (h : Width.signed32.Holds f.year) :
    ofNarrowFields c f = Checked.ofExcept (PersianCalendar.Date.ofYmd c f) := by
  cases c with
  | jalali => exact ofNarrowFields_jalali hwidth
  | gregorian => exact ofNarrowFields_gregorian hwidth h

end

/-- Fields are refused in words as they are in exact integers. -/
lemma ofYmd_eq (c : Calendar) {f : Ymd} (h : Width.signed32.Holds f.year) :
    ofYmd c f = Checked.ofExcept (PersianCalendar.Date.ofYmd c f) := by
  by_cases hwidth : Width.unsigned8.Holds f.month ∧ Width.unsigned8.Holds f.day
  · rw [ofYmd, if_neg (not_not_intro hwidth)]
    exact ofNarrowFields_eq hwidth c h
  · rw [ofYmd, PersianCalendar.Date.ofYmd, if_pos hwidth, if_pos hwidth]
    rfl

/-! ### Day numbers of dates -/

lemma holds_dayNumber {d : Date c} (h : d.Valid) : Width.signed64.Holds d.dayNumber := by
  have hfirst := h.firstDay_le
  have hlast := h.le_lastDay
  have hbounds : -9223372036854775808 ≤ c.firstDay ∧ c.lastDay ≤ 9223372036854775807 := by
    cases c <;> decide
  exact ⟨Int.le_trans hbounds.1 hfirst, Int.le_trans hlast hbounds.2⟩

/-- The day number of a date fits in its word, and so does every sum on the way to it. -/
lemma dayNumber_eq_ok {d : Date c} (h : d.Valid) : dayNumber d = .ok d.dayNumber := by
  have hholds := holds_dayNumber h
  obtain ⟨hyear, hmonth, hday⟩ := h.fits32
  cases c with
  | jalali =>
    rw [dayNumber, Jalali.approximateYearStart_eq_ok, ok_bind, Jalali.firstDay_eq_ok, ok_bind,
      (Jalali.dayOfYear_eq_ok hmonth hday).1, ok_bind]
    exact step_of_holds hholds
  | gregorian =>
    obtain ⟨hlow, hhigh⟩ : -2147483648 ≤ d.year ∧ d.year ≤ 2147483647 := hyear
    obtain ⟨hdlow, hdhigh⟩ : -2147483648 ≤ d.day ∧ d.day ≤ 2147483647 := hday
    exact Gregorian.dayNumber_eq_ok (by omega) h.2.1 (by omega)

/-- Day numbers are refused in words as they are in exact integers. -/
lemma ofDayNumber_eq (c : Calendar) {n : Int} (h : Width.signed64.Holds n) :
    ofDayNumber c n = Checked.ofExcept (PersianCalendar.Date.ofDayNumber c n) := by
  cases c with
  | jalali =>
    simp only [ofDayNumber, Jalali.ofDayNumber_eq h, PersianCalendar.Date.ofDayNumber]
    rcases PersianCalendar.Jalali.outcome_fieldsOfDay n with ⟨f, hf, -, hday, -⟩ | ⟨year, hyear, -⟩
    · simp [hf, narrow_eq_ok hday]
    · simp only [hyear]
      rfl
  | gregorian =>
    simp only [ofDayNumber, Gregorian.ofDayNumber?_eq_ok h, Checked.lift_ok_bind]
    by_cases hn : lastDayNumber < n
    · rw [if_pos hn, PersianCalendar.Date.gregorian_of_gt hn, ← Gregorian.bound_of_gt hn]
      rfl
    rw [if_neg hn]
    by_cases hs : Calendar.gregorian.Supports (PersianCalendar.Gregorian.ofDayNumber n).year
    · rw [PersianCalendar.Date.gregorian_of_supports hn hs]
      simp only [narrow_eq_ok (PersianCalendar.Date.hasDay_gregorian n)]
      exact if_neg (not_not_intro hs)
    · rw [PersianCalendar.Date.gregorian_of_not_supports hn hs]
      exact if_pos hs

lemma convert_eq {target : Calendar} {d : Date c} (h : d.Valid) :
    convert d target = Checked.ofExcept (d.convert target) := by
  rw [convert, dayNumber_eq_ok h, Checked.lift_ok_bind]
  exact ofDayNumber_eq target (holds_dayNumber h)

lemma toGregorian_eq_ok {d : Date .jalali} (h : d.Valid) : toGregorian d = .ok d.toGregorian := by
  have hvalid := PersianCalendar.Date.valid_toGregorian h
  have hlast : d.dayNumber ≤ 9223372036854775807 - Gregorian.shift :=
    Int.le_trans h.le_lastDay (by decide)
  rw [toGregorian, dayNumber_eq_ok h, ok_bind,
    Gregorian.ofDayNumber_eq_ok (holds_dayNumber h).1 hlast, ok_bind]
  have hyear : step32 (PersianCalendar.Gregorian.ofDayNumber d.dayNumber).year =
      .ok (PersianCalendar.Gregorian.ofDayNumber d.dayNumber).year := step_of_holds hvalid.1
  rw [hyear, ok_bind]
  show (narrow d.toGregorian.toYmd >>= fun f => pure (Date.mk f)) = .ok d.toGregorian
  rw [narrow_eq_ok hvalid.2]
  rfl

/-! ### Counting days -/

/-- A sum that does not fit is refused before a date is looked for. -/
lemma addDays_eq {d : Date c} (h : d.Valid) (days : Int) :
    addDays d days = Checked.ofExcept (d.addDays days) := by
  rw [addDays, dayNumber_eq_ok h, Checked.lift_ok_bind, PersianCalendar.Date.addDays]
  by_cases hholds : Width.signed64.Holds (d.dayNumber + days)
  · simp only [hholds, not_true_eq_false, if_true, if_false]
    exact ofDayNumber_eq c hholds
  · simp only [hholds, not_false_eq_true, if_true, if_false]
    rfl

/-- Day numbers of dates stay so far inside their word that their difference has 64 bits, too. -/
lemma daysUntil_eq_ok {d e : Date c} (hd : d.Valid) (he : e.Valid) :
    daysUntil d e = .ok (d.daysUntil e) := by
  have hlast : c.lastDay - c.firstDay ≤ 9223372036854775807 := by
    cases c <;> decide
  have hd1 := hd.firstDay_le
  have hd2 := hd.le_lastDay
  have he1 := he.firstDay_le
  have he2 := he.le_lastDay
  rw [daysUntil, dayNumber_eq_ok he, ok_bind, dayNumber_eq_ok hd, ok_bind,
    step64_eq (by omega) (by omega)]
  rfl

/-- The day of the year of a date is one from 1 to 366. -/
lemma ordinal_bounds {d : Date .jalali} (h : d.Valid) : 1 ≤ d.ordinal ∧ d.ordinal ≤ 366 := by
  obtain ⟨-, hmonth, hday⟩ := h
  simp only [Calendar.monthLength] at hday
  rw [PersianCalendar.Date.ordinal, PersianCalendar.Jalali.dayOfYear_eq hmonth]
  simp only [PersianCalendar.Jalali.monthLength, PersianCalendar.Jalali.firstHalfDays] at hday ⊢
  split at hday <;> omega

lemma ordinal_eq_ok {d : Date .jalali} (h : d.Valid) : ordinal d = .ok d.ordinal := by
  obtain ⟨hlow, hhigh⟩ := ordinal_bounds h
  obtain ⟨-, hmonth, hday⟩ := h.fits32
  have hword : ∀ n, 0 ≤ n ∧ n ≤ 366 → step .unsigned16 n = .ok n := by
    intro n hn
    exact step_of_holds ⟨hn.1, Int.le_trans hn.2 (by decide)⟩
  rw [PersianCalendar.Date.ordinal] at hlow hhigh
  rw [ordinal, (Jalali.dayOfYear_eq_ok hmonth hday).1, ok_bind, hword _ (by omega), ok_bind,
    hword _ (by omega)]
  rfl

/-! ### Conversion of fields -/

lemma gregorianFields_eq {f : Ymd} (h : Width.signed32.Holds f.year) :
    gregorianFields f = Checked.ofExcept f.toGregorian := by
  rw [gregorianFields, ofYmd_eq .jalali h, Ymd.toGregorian]
  refine Checked.ofExcept_bind fun d hd => ?_
  obtain ⟨hvalid, -⟩ := PersianCalendar.Date.ofYmd_eq_ok_iff.1 hd
  rw [toGregorian_eq_ok hvalid]
  rfl

lemma jalaliFields_eq {f : Ymd} (h : Width.signed32.Holds f.year) :
    jalaliFields f = Checked.ofExcept f.toJalali := by
  rw [jalaliFields, ofYmd_eq .gregorian h, Ymd.toJalali]
  refine Checked.ofExcept_bind fun e he => ?_
  obtain ⟨hvalid, -⟩ := PersianCalendar.Date.ofYmd_eq_ok_iff.1 he
  rw [convert_eq hvalid]
  exact Checked.ofExcept_bind fun d _ => rfl

end Date

end FixedWidth

end PersianCalendar
