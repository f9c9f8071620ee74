import PersianCalendar.Proofs.Date.NextDay

/-!
# Which fields are refused

Fields that are not those of a date are refused with an error that is known beforehand
(`Date.refusal`), by `Date.ofYmd` and by the conversion of fields alike.  A conversion refuses nothing
else but Gregorian dates of days that lie outside the supported Jalali years
(`Ymd.exists_toJalali_iff`).
-/

namespace PersianCalendar

open FixedWidth (Checked)
open Outcome

variable {c : Calendar} {f : Ymd}

/-! ### The error -/

namespace Date

/-- The error with which fields are refused that are not those of a date.  The year is to blame only
where the month and the day have the width of such fields. -/
def refusal (c : Calendar) (f : Ymd) : DateError :=
  if (Width.unsigned8.Holds f.month ∧ Width.unsigned8.Holds f.day) ∧ ¬c.Supports f.year then
    .unsupportedYear f.year
  else .noSuchDate c f

lemma refusal_of_supports (h : c.Supports f.year) : refusal c f = .noSuchDate c f :=
  if_neg fun hyear => hyear.2 h

lemma ofYmd_of_valid (h : (⟨f⟩ : Date c).Valid) : ofYmd c f = .ok ⟨f⟩ :=
  ofYmd_eq_ok_iff.2 ⟨h, rfl⟩

lemma ofYmd_of_not_valid (h : ¬(⟨f⟩ : Date c).Valid) : ofYmd c f = .error (refusal c f) := by
  unfold ofYmd
  by_cases hwidth : Width.unsigned8.Holds f.month ∧ Width.unsigned8.Holds f.day
  · rw [if_neg (not_not_intro hwidth)]
    by_cases hs : c.Supports f.year
    · have hday : ¬c.HasDay f := fun hday => h ⟨hs, hday⟩
      rw [if_neg (not_not_intro hs), if_neg hday, refusal_of_supports hs]
    · rw [if_pos hs, refusal, if_pos ⟨hwidth, hs⟩]
  · rw [if_pos hwidth, refusal, if_neg fun hyear => hwidth hyear.1]

end Date

/-! ### Conversion of fields -/

namespace Ymd

lemma toGregorian_of_valid (h : (⟨f⟩ : Date .jalali).Valid) :
    f.toGregorian = .ok (⟨f⟩ : Date .jalali).toGregorian.toYmd :=
  bind_eq_ok.2 ⟨_, Date.ofYmd_of_valid h, rfl⟩

lemma toGregorian_of_not_valid (h : ¬(⟨f⟩ : Date .jalali).Valid) :
    f.toGregorian = .error (Date.refusal .jalali f) :=
  bind_eq_error.2 (Or.inl (Date.ofYmd_of_not_valid h))

lemma toJalali_of_not_valid (h : ¬(⟨f⟩ : Date .gregorian).Valid) :
    f.toJalali = .error (Date.refusal .gregorian f) :=
  bind_eq_error.2 (Or.inl (Date.ofYmd_of_not_valid h))

lemma toJalali_of_valid (h : (⟨f⟩ : Date .gregorian).Valid) :
    f.toJalali = ((⟨f⟩ : Date .gregorian).convert .jalali).map Date.toYmd := by
  rw [toJalali, Date.ofYmd_of_valid h]
  show (Date.convert ⟨f⟩ .jalali >>= fun e => pure e.toYmd) = _
  cases (⟨f⟩ : Date .gregorian).convert .jalali <;> rfl

/-- The fields of a Gregorian date have Jalali ones just if its day lies in the supported years. -/
lemma exists_toJalali_iff (h : (⟨f⟩ : Date .gregorian).Valid) :
    (∃ g, f.toJalali = .ok g) ↔
      Calendar.jalali.firstDay ≤ Calendar.gregorian.dayNumber f ∧
        Calendar.gregorian.dayNumber f ≤ Calendar.jalali.lastDay := by
  rw [toJalali_of_valid h, ← Date.exists_ofDayNumber_iff]
  constructor
  · rintro ⟨g, hg⟩
    obtain ⟨d, hd, -⟩ := map_eq_ok.1 hg
    exact ⟨d, hd⟩
  · rintro ⟨d, hd⟩
    exact ⟨d.toYmd, map_eq_ok.2 ⟨d, hd, rfl⟩⟩

/-- A Gregorian date is refused for no other reason than the year of its day. -/
lemma toJalali_cases (h : (⟨f⟩ : Date .gregorian).Valid) :
    (∃ g, f.toJalali = .ok g) ∨ ∃ year, f.toJalali = .error (.unsupportedYear year) := by
  rw [toJalali_of_valid h]
  rcases Date.ofDayNumber_cases .jalali (Calendar.gregorian.dayNumber f) with
    ⟨d, hd, -⟩ | ⟨year, hyear, -⟩
  · exact Or.inl ⟨d.toYmd, map_eq_ok.2 ⟨d, hd, rfl⟩⟩
  · exact Or.inr ⟨year, map_eq_error.2 hyear⟩

lemma exists_toJalali_eq_error_iff (h : (⟨f⟩ : Date .gregorian).Valid) :
    (∃ year, f.toJalali = .error (.unsupportedYear year)) ↔
      Calendar.gregorian.dayNumber f < Calendar.jalali.firstDay ∨
        Calendar.jalali.lastDay < Calendar.gregorian.dayNumber f := by
  constructor
  · rintro ⟨year, hyear⟩
    have hnone : ¬∃ g, f.toJalali = .ok g := by
      rintro ⟨g, hg⟩
      rw [hyear] at hg
      cases hg
    rw [exists_toJalali_iff h] at hnone
    omega
  · intro hout
    refine (toJalali_cases h).resolve_left ?_
    rw [exists_toJalali_iff h]
    omega

/-! ### The fields of dates -/

/-- The month is one of the twelve, and the day one of the month, which has the length that is told
of it. -/
def LiesInMonth {ε : Type} (f : Ymd) (length : Except ε Int) : Prop :=
  (1 ≤ f.month ∧ f.month ≤ 12) ∧ ∃ n, length = .ok n ∧ 1 ≤ f.day ∧ f.day ≤ n

instance {ε : Type} (f : Ymd) : (length : Except ε Int) → Decidable (f.LiesInMonth length)
  | .ok n =>
    decidable_of_iff ((1 ≤ f.month ∧ f.month ≤ 12) ∧ 1 ≤ f.day ∧ f.day ≤ n)
      (and_congr_right fun _ => ⟨fun hday => ⟨n, rfl, hday⟩, fun ⟨_, rfl, hday⟩ => hday⟩)
  | .error _ => isFalse fun ⟨_, _, hlength, _⟩ => nomatch hlength

lemma liesInMonth_iff {ε : Type} {length : Except ε Int}
    (h : 1 ≤ f.month ∧ f.month ≤ 12 → length = .ok (c.monthLength f.year f.month)) :
    f.LiesInMonth length ↔ c.HasDay f := by
  refine and_congr_right fun hmonth => ?_
  rw [h hmonth]
  constructor
  · rintro ⟨n, ⟨⟩, hday⟩
    exact hday
  · intro hday
    exact ⟨_, rfl, hday⟩

end Ymd

lemma Jalali.valid_iff_liesInMonth :
    (-61 ≤ f.year ∧ f.year ≤ 3177) ∧ f.LiesInMonth (Jalali.daysInMonth f.year f.month) ↔
      (⟨f⟩ : Date .jalali).Valid :=
  and_congr_right fun hs => Ymd.liesInMonth_iff (Jalali.daysInMonth_eq_ok hs)

lemma Gregorian.valid_iff_liesInMonth (h : Width.signed32.Holds f.year) :
    f.LiesInMonth (FixedWidth.Gregorian.monthLength f.year f.month) ↔
      (⟨f⟩ : Date .gregorian).Valid := by
  rw [Ymd.liesInMonth_iff (c := .gregorian) (FixedWidth.Gregorian.monthLength_eq_ok f.year)]
  exact (and_iff_right h).symm

/-- The ends of the supported Jalali years, by the day numbers of their fields. -/
lemma Jalali.dayNumber_ends :
    dayNumber (-61) 1 1 = .ok Calendar.jalali.firstDay ∧
      ∃ length, daysInMonth 3177 12 = .ok length ∧
        dayNumber 3177 12 length = .ok Calendar.jalali.lastDay := by
  have hfirst : (⟨⟨-61, 1, 1⟩⟩ : Date .jalali).Valid := by decide
  have hlast : (⟨⟨3177, 12, 29⟩⟩ : Date .jalali).Valid := by decide
  exact ⟨Date.dayNumber_fields hfirst, 29, rfl, Date.dayNumber_fields hlast⟩

/-- Jalali fields are taken, and converted, just where the year is supported and the month and the day
lie in it, and Gregorian ones just where the month and the day lie in the year.  Any others are refused,
and are refused with the same error where they are to be converted.  Apart from those, a conversion
refuses the Gregorian dates of days outside the supported Jalali years, with an unsupported year. -/
theorem fields_taken_or_refused :
    (∀ f : Ymd, f.Fits32 →
      ((-61 ≤ f.year ∧ f.year ≤ 3177) ∧ f.LiesInMonth (Jalali.daysInMonth f.year f.month) →
        FixedWidth.Date.ofYmd .jalali f = Checked.ofExcept (.ok ⟨f⟩) ∧
        ∃ g, FixedWidth.Date.gregorianFields f = Checked.ofExcept (.ok g)) ∧
      (¬((-61 ≤ f.year ∧ f.year ≤ 3177) ∧ f.LiesInMonth (Jalali.daysInMonth f.year f.month)) →
        FixedWidth.Date.ofYmd .jalali f = Checked.ofExcept (.error (Date.refusal .jalali f)) ∧
        FixedWidth.Date.gregorianFields f = Checked.ofExcept (.error (Date.refusal .jalali f))) ∧
      (f.LiesInMonth (FixedWidth.Gregorian.monthLength f.year f.month) →
        FixedWidth.Date.ofYmd .gregorian f = Checked.ofExcept (.ok ⟨f⟩)) ∧
      (¬f.LiesInMonth (FixedWidth.Gregorian.monthLength f.year f.month) →
        FixedWidth.Date.ofYmd .gregorian f = Checked.ofExcept (.error (.noSuchDate .gregorian f)) ∧
        FixedWidth.Date.jalaliFields f = Checked.ofExcept (.error (.noSuchDate .gregorian f)))) ∧
    ∃ first last, Jalali.dayNumber (-61) 1 1 = .ok first ∧
      (∃ length, Jalali.daysInMonth 3177 12 = .ok length ∧
        Jalali.dayNumber 3177 12 length = .ok last) ∧
      ∀ f : Ymd, f.Fits32 → f.LiesInMonth (FixedWidth.Gregorian.monthLength f.year f.month) →
        ∃ n, FixedWidth.Gregorian.dayNumber f.year f.month f.day = .ok n ∧
          ((∃ year, FixedWidth.Date.jalaliFields f =
            Checked.ofExcept (.error (.unsupportedYear year))) ↔ n < first ∨ last < n) ∧
          ((∃ g, FixedWidth.Date.jalaliFields f = Checked.ofExcept (.ok g)) ↔
            first ≤ n ∧ n ≤ last) := by
  constructor
  · rintro f ⟨hyear, -⟩
    rw [Jalali.valid_iff_liesInMonth, Gregorian.valid_iff_liesInMonth hyear,
      FixedWidth.Date.ofYmd_eq _ hyear, FixedWidth.Date.ofYmd_eq _ hyear,
      FixedWidth.Date.gregorianFields_eq hyear, FixedWidth.Date.jalaliFields_eq hyear]
    refine ⟨fun h => ?_, fun h => ?_, fun h => ?_, fun h => ?_⟩
    · exact ⟨by rw [Date.ofYmd_of_valid h], _, by rw [Ymd.toGregorian_of_valid h]⟩
    · rw [Date.ofYmd_of_not_valid h, Ymd.toGregorian_of_not_valid h]
      exact ⟨rfl, rfl⟩
    · rw [Date.ofYmd_of_valid h]
    · have hs : Calendar.gregorian.Supports f.year := hyear
      rw [Date.ofYmd_of_not_valid h, Ymd.toJalali_of_not_valid h, Date.refusal_of_supports hs]
      exact ⟨rfl, rfl⟩
  · obtain ⟨hfirst, hlast⟩ := Jalali.dayNumber_ends
    refine ⟨_, _, hfirst, hlast, ?_⟩
    rintro f ⟨hyear, -⟩ h
    rw [Gregorian.valid_iff_liesInMonth hyear] at h
    refine ⟨_, FixedWidth.Date.dayNumber_eq_ok h, ?_⟩
    simp only [FixedWidth.Date.jalaliFields_eq hyear, Checked.ofExcept_inj]
    exact ⟨Ymd.exists_toJalali_eq_error_iff h, Ymd.exists_toJalali_iff h⟩

/-- Of several faults the width of the month or the day comes first, then the year.  30 Esfand is missing
in a common year, 29 February too; and the day before the first Jalali one and the last Jalali day are
Gregorian dates. -/
theorem fields_taken_or_refused_at_ends :
    FixedWidth.Date.gregorianFields ⟨3200, 300, 0⟩ =
      Checked.ofExcept (.error (.noSuchDate .jalali ⟨3200, 300, 0⟩)) ∧
    FixedWidth.Date.gregorianFields ⟨3200, 13, 0⟩ =
      Checked.ofExcept (.error (.unsupportedYear 3200)) ∧
    FixedWidth.Date.ofYmd .jalali ⟨1402, 12, 30⟩ =
      Checked.ofExcept (.error (.noSuchDate .jalali ⟨1402, 12, 30⟩)) ∧
    FixedWidth.Date.ofYmd .jalali ⟨1403, 12, 30⟩ = Checked.ofExcept (.ok ⟨⟨1403, 12, 30⟩⟩) ∧
    FixedWidth.Date.ofYmd .gregorian ⟨2024, 2, 29⟩ = Checked.ofExcept (.ok ⟨⟨2024, 2, 29⟩⟩) ∧
    FixedWidth.Date.jalaliFields ⟨2023, 2, 29⟩ =
      Checked.ofExcept (.error (.noSuchDate .gregorian ⟨2023, 2, 29⟩)) ∧
    (∃ year, FixedWidth.Date.jalaliFields ⟨560, 3, 19⟩ =
      Checked.ofExcept (.error (.unsupportedYear year))) ∧
    ∃ g, FixedWidth.Date.jalaliFields ⟨3799, 3, 19⟩ = Checked.ofExcept (.ok g) := by
  obtain ⟨hfields, first, last, hfirst, ⟨length, hlength, hlast⟩, hdays⟩ := fields_taken_or_refused
  have hbefore := hdays ⟨560, 3, 19⟩ (by decide) (by decide)
  have hend := hdays ⟨3799, 3, 19⟩ (by decide) (by decide)
  obtain rfl : 1925675 = first := Except.ok.inj hfirst
  obtain rfl : 29 = length := Except.ok.inj hlength
  obtain rfl : 3108694 = last := Except.ok.inj hlast
  obtain ⟨n, hn, hrefused, -⟩ := hbefore
  obtain rfl : 1925674 = n := Except.ok.inj hn
  obtain ⟨n, hn, -, htaken⟩ := hend
  obtain rfl : 3108694 = n := Except.ok.inj hn
  refine ⟨((hfields _ ?_).2.1 ?_).2, ((hfields _ ?_).2.1 ?_).2, ((hfields _ ?_).2.1 ?_).1,
    ((hfields _ ?_).1 ?_).1, (hfields _ ?_).2.2.1 ?_, ((hfields _ ?_).2.2.2 ?_).2,
    hrefused.2 (Or.inl ?_), htaken.2 ⟨?_, ?_⟩⟩ <;> decide

end PersianCalendar
