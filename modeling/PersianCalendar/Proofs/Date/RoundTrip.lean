import PersianCalendar.Proofs.FixedWidth.Date

/-!
# The two calendars and the day numbers, there and back

Three bijections: between the Jalali and the Gregorian dates of the same days, between the Jalali
dates and their day numbers, and between the Gregorian dates and theirs.  The day numbers of a
calendar are those from the first to the last day of its supported years, and every other one is
refused with a year on its side.  Words of fixed width hold all of it.
-/

namespace PersianCalendar

open FixedWidth (Checked)

/-! ### Between the calendars -/

/-- Conversion of fields is undone by conversion the other way, on either side, and a date keeps its
day number.  The computation in words gives the same for all fields of 32 bits and all dates. -/
theorem conversions_inverse :
    (∀ f g : Ymd, f.toGregorian = .ok g → g.Fits32 ∧ g.toJalali = .ok f) ∧
    (∀ f g : Ymd, g.toJalali = .ok f → f.Fits32 ∧ f.toGregorian = .ok g) ∧
    (∀ d : Date .jalali, d.Valid → d.toGregorian.Valid ∧ d.toGregorian.dayNumber = d.dayNumber) ∧
    (∀ (e : Date .gregorian) (d : Date .jalali), e.Valid → e.convert .jalali = .ok d →
      d.Valid ∧ d.dayNumber = e.dayNumber) ∧
    (∀ f : Ymd, f.Fits32 →
      FixedWidth.Date.gregorianFields f = Checked.ofExcept f.toGregorian ∧
      FixedWidth.Date.jalaliFields f = Checked.ofExcept f.toJalali) ∧
    (∀ d : Date .jalali, d.Valid →
      FixedWidth.Date.toGregorian d = .ok d.toGregorian ∧
      FixedWidth.Date.dayNumber d = .ok d.dayNumber) ∧
    (∀ e : Date .gregorian, e.Valid →
      FixedWidth.Date.convert e .jalali = Checked.ofExcept (e.convert .jalali) ∧
      FixedWidth.Date.dayNumber e = .ok e.dayNumber) := by
  refine ⟨?_, ?_, ?_, ?_, ?_, ?_, ?_⟩
  · intro f g h
    have hday := Ymd.toGregorian_eq_ok_iff.1 h
    exact ⟨hday.fits32.2, Ymd.toJalali_eq_ok_iff.2 hday⟩
  · intro f g h
    have hday := Ymd.toJalali_eq_ok_iff.1 h
    exact ⟨hday.fits32.1, Ymd.toGregorian_eq_ok_iff.2 hday⟩
  · intro d hd
    exact ⟨Date.valid_toGregorian hd, Date.dayNumber_toGregorian d⟩
  · intro e d _ h
    exact Date.convert_eq_ok_iff.1 h
  · -- the rest says that words hold the computation
    intro f hf
    exact ⟨FixedWidth.Date.gregorianFields_eq hf.1, FixedWidth.Date.jalaliFields_eq hf.1⟩
  · intro d hd
    exact ⟨FixedWidth.Date.toGregorian_eq_ok hd, FixedWidth.Date.dayNumber_eq_ok hd⟩
  · intro e he
    exact ⟨FixedWidth.Date.convert_eq he, FixedWidth.Date.dayNumber_eq_ok he⟩

/-- The last day of the leap year 1403, a day of a Gregorian year that has begun before it. -/
theorem conversions_inverse_leap_day :
    (⟨2025, 3, 20⟩ : Ymd).toJalali = .ok ⟨1403, 12, 30⟩ ∧
    (⟨1403, 12, 30⟩ : Ymd).toGregorian = .ok ⟨2025, 3, 20⟩ ∧
    (⟨⟨1403, 12, 30⟩⟩ : Date .jalali).toGregorian.dayNumber = 2460755 ∧
    (∀ d, (⟨⟨2025, 3, 20⟩⟩ : Date .gregorian).convert .jalali = .ok d → d.dayNumber = 2460755) ∧
    FixedWidth.Date.gregorianFields ⟨1403, 12, 30⟩ = Checked.ofExcept (.ok ⟨2025, 3, 20⟩) ∧
    FixedWidth.Date.jalaliFields ⟨2025, 3, 20⟩ = Checked.ofExcept (.ok ⟨1403, 12, 30⟩) ∧
    FixedWidth.Date.dayNumber (⟨⟨1403, 12, 30⟩⟩ : Date .jalali) = .ok 2460755 ∧
    FixedWidth.Date.dayNumber (⟨⟨2025, 3, 20⟩⟩ : Date .gregorian) = .ok 2460755 := by
  obtain ⟨hthere, hback, hday, hconvert, hfields, hjalali, hgregorian⟩ := conversions_inverse
  have h1 : (⟨1403, 12, 30⟩ : Ymd).toGregorian = .ok ⟨2025, 3, 20⟩ := rfl
  have h2 := (hthere _ _ h1).2
  have hvalid : (⟨⟨1403, 12, 30⟩⟩ : Date .jalali).Valid := by decide
  have hvalid' : (⟨⟨2025, 3, 20⟩⟩ : Date .gregorian).Valid := by decide
  refine ⟨h2, (hback _ _ h2).2, ?_, ?_, ?_, ?_, (hjalali _ hvalid).2, (hgregorian _ hvalid').2⟩
  · rw [(hday _ hvalid).2]
    decide
  · intro d hd
    rw [(hconvert _ _ hvalid' hd).2]
    decide
  · rw [(hfields _ (by decide)).1, h1]
  · rw [(hfields _ (by decide)).2, h2]

/-! ### Jalali dates and their day numbers -/

/-- The days after the supported years, by the start and the length of the last of these years. -/
lemma Jalali.lastDay_lt_iff {n : Int} :
    Calendar.jalali.lastDay < n ↔ (YearStart.approximate 3177).dayNumber + 365 +
      (if (YearStart.approximate 3177).isLeap then 1 else 0) ≤ n := by
  have hlast : (YearStart.approximate 3177).dayNumber + 365 +
      (if (YearStart.approximate 3177).isLeap then 1 else 0) = Calendar.jalali.lastDay + 1 := by
    decide
  rw [hlast]
  exact Int.add_one_le_iff.symm

/-- The day numbers for which Jalali fields are found reach from the first day of year −61 to the last
day of year 3177.  The fields found are those of a date, whose day number they have, and every date is
found so; any other day number is refused with a year on its side. -/
theorem jalali_days_exact :
    ∃ first last : Jalali.YearStart,
      Jalali.YearStart.ofYear (-61) = .ok first ∧ Jalali.YearStart.ofYear 3177 = .ok last ∧
      (∀ n, (∃ f, Jalali.fieldsOfDay n = .ok f) ↔
        first.dayNumber ≤ n ∧ n < last.dayNumber + 365 + if last.isLeap then 1 else 0) ∧
      (∀ n f, Jalali.fieldsOfDay n = .ok f → f.Fits32 ∧
        Date.ofYmd .jalali f = .ok ⟨f⟩ ∧ Jalali.dayNumber f.year f.month f.day = .ok n) ∧
      (∀ n, n < first.dayNumber →
        ∃ year, Jalali.fieldsOfDay n = .error (.unsupportedYear year) ∧ year < -61) ∧
      (∀ n, (last.dayNumber + 365 + if last.isLeap then 1 else 0) ≤ n →
        ∃ year, Jalali.fieldsOfDay n = .error (.unsupportedYear year) ∧ 3177 < year) ∧
      (∀ f d, Date.ofYmd .jalali f = .ok d →
        ∃ n, Width.signed64.Holds n ∧
          Jalali.dayNumber f.year f.month f.day = .ok n ∧ Jalali.fieldsOfDay n = .ok f) ∧
      (∀ n, Width.signed64.Holds n →
        FixedWidth.Jalali.ofDayNumber n = Checked.ofExcept (Jalali.fieldsOfDay n)) ∧
      (∀ f : Ymd, f.Fits32 →
        FixedWidth.Date.ofYmd .jalali f = Checked.ofExcept (Date.ofYmd .jalali f) ∧
        FixedWidth.Jalali.dayNumber f.year f.month f.day =
          Checked.ofExcept (Jalali.dayNumber f.year f.month f.day)) ∧
      (∀ year start, Jalali.YearStart.ofYear year = .ok start →
        FixedWidth.Jalali.yearStart year = Checked.ofExcept (.ok start) ∧
        FixedWidth.Jalali.firstDay start = .ok start.dayNumber) := by
  have hfirst : (Jalali.YearStart.approximate (-61)).dayNumber = Calendar.jalali.firstDay :=
    Jalali.firstDay_eq.symm
  refine ⟨_, _, Jalali.YearStart.ofYear_of_supported (by decide),
    Jalali.YearStart.ofYear_of_supported (by decide), ?_, ?_, ?_, ?_, ?_, ?_, ?_, ?_⟩
  · -- the days found are those of the Jalali dates
    intro n
    rw [hfirst, ← Int.not_le, ← Jalali.lastDay_lt_iff, Int.not_lt, ← Date.exists_ofDayNumber_iff]
    constructor
    · rintro ⟨f, hf⟩
      exact ⟨⟨f⟩, Date.fieldsOfDay_eq_ok_iff.1 hf⟩
    · rintro ⟨d, hd⟩
      exact ⟨d.toYmd, Date.fieldsOfDay_eq_ok_iff.2 hd⟩
  · intro n f h
    have hd : Date.ofDayNumber .jalali n = .ok ⟨f⟩ := Date.fieldsOfDay_eq_ok_iff.1 h
    obtain ⟨hvalid, rfl⟩ := Date.ofDayNumber_eq_ok_iff.1 hd
    exact ⟨hvalid.fits32, Date.ofYmd_eq_ok_iff.2 ⟨hvalid, rfl⟩, Date.dayNumber_fields hvalid⟩
  · -- a day before the first, then one after the last
    intro n hn
    obtain ⟨year, hyear, hlow⟩ := Date.ofDayNumber_of_lt (hfirst ▸ hn)
    exact ⟨year, Date.fieldsOfDay_eq_error_iff.2 hyear, hlow⟩
  · intro n hn
    obtain ⟨year, hyear, hhigh⟩ := Date.ofDayNumber_of_gt (Jalali.lastDay_lt_iff.2 hn)
    exact ⟨year, Date.fieldsOfDay_eq_error_iff.2 hyear, hhigh⟩
  · intro f d h
    obtain ⟨hvalid, rfl⟩ := Date.ofYmd_eq_ok_iff.1 h
    exact ⟨d.dayNumber, FixedWidth.Date.holds_dayNumber hvalid, Date.dayNumber_fields hvalid,
      Date.fieldsOfDay_eq_ok_iff.2 (Date.ofDayNumber_dayNumber hvalid)⟩
  · -- the rest says that words hold the computation
    intro n hn
    exact FixedWidth.Jalali.ofDayNumber_eq hn
  · intro f hf
    exact ⟨FixedWidth.Date.ofYmd_eq .jalali hf.1,
      FixedWidth.Jalali.dayNumber_eq f.year hf.2.1 hf.2.2⟩
  · intro year start h
    obtain ⟨hsupported, rfl⟩ := Jalali.YearStart.ofYear_eq_ok_iff.1 h
    exact ⟨by rw [FixedWidth.Jalali.yearStart_eq, h], FixedWidth.Jalali.firstDay_eq_ok year⟩

/-- A day at the end of a leap year, and a day on either side of the table. -/
theorem jalali_days_exact_leap_day :
    Date.ofYmd .jalali ⟨1403, 12, 30⟩ = .ok ⟨⟨1403, 12, 30⟩⟩ ∧
    Jalali.dayNumber 1403 12 30 = .ok 2460755 ∧
    (∃ year, Jalali.fieldsOfDay 0 = .error (.unsupportedYear year) ∧ year < -61) ∧
    (∃ year, Jalali.fieldsOfDay 10000000 = .error (.unsupportedYear year) ∧ 3177 < year) ∧
    (∃ n, Width.signed64.Holds n ∧
      Jalali.dayNumber 1403 12 30 = .ok n ∧ Jalali.fieldsOfDay n = .ok ⟨1403, 12, 30⟩) ∧
    FixedWidth.Jalali.ofDayNumber 2460755 = Checked.ofExcept (.ok ⟨1403, 12, 30⟩) ∧
    FixedWidth.Jalali.dayNumber 1403 12 30 = Checked.ofExcept (.ok 2460755) ∧
    FixedWidth.Jalali.firstDay ⟨2024, 20, true⟩ = .ok 2460390 := by
  obtain ⟨first, last, hfirst, hlast, -, hfields, hlow, hhigh, hback, hwords, hdays, hstart⟩ :=
    jalali_days_exact
  have hfound : Jalali.fieldsOfDay 2460755 = .ok ⟨1403, 12, 30⟩ := rfl
  have hstart1403 : Jalali.YearStart.ofYear 1403 = .ok ⟨2024, 20, true⟩ := rfl
  obtain ⟨-, hdate, hday⟩ := hfields 2460755 _ hfound
  cases hfirst
  cases hlast
  refine ⟨hdate, hday, hlow 0 (by decide), hhigh 10000000 (by decide), hback _ _ hdate, ?_, ?_, ?_⟩
  · rw [hwords 2460755 (by decide), hfound]
  · rw [(hdays ⟨1403, 12, 30⟩ (by decide)).2, hday]
  · rw [(hstart 1403 _ hstart1403).2]
    rfl

/-! ### Gregorian dates and their day numbers -/

/-- The day numbers for which a Gregorian date is found reach from the first day of the least year of
32 bits to the last day of the greatest.  The date found has the day number, and every date is found
so; any other day number is refused with a year on its side. -/
theorem gregorian_days_exact :
    (∀ d : Date .gregorian, d.Valid →
      Width.signed64.Holds d.dayNumber ∧ Date.ofDayNumber .gregorian d.dayNumber = .ok d) ∧
    (∀ n, (∃ d, Date.ofDayNumber .gregorian n = .ok d) ↔
      Gregorian.dayNumber (-2147483648) 1 1 ≤ n ∧ n ≤ Gregorian.dayNumber 2147483647 12 31) ∧
    (∀ n d, Date.ofDayNumber .gregorian n = .ok d →
      d.toYmd.Fits32 ∧ Date.ofYmd .gregorian d.toYmd = .ok d ∧ d.dayNumber = n) ∧
    (∀ n, n < Gregorian.dayNumber (-2147483648) 1 1 →
      ∃ year, Date.ofDayNumber .gregorian n = .error (.unsupportedYear year) ∧
        year < -2147483648) ∧
    (∀ n, Gregorian.dayNumber 2147483647 12 31 < n →
      ∃ year, Date.ofDayNumber .gregorian n = .error (.unsupportedYear year) ∧
        2147483647 < year) ∧
    (∀ n, Width.signed64.Holds n → FixedWidth.Date.ofDayNumber .gregorian n =
      Checked.ofExcept (Date.ofDayNumber .gregorian n)) ∧
    (∀ f : Ymd, f.Fits32 →
      FixedWidth.Date.ofYmd .gregorian f = Checked.ofExcept (Date.ofYmd .gregorian f)) ∧
    (∀ d : Date .gregorian, d.Valid → FixedWidth.Date.dayNumber d = .ok d.dayNumber) := by
  have hlast : Calendar.gregorian.lastDay = Gregorian.dayNumber 2147483647 12 31 := by decide
  refine ⟨?_, ?_, ?_, ?_, ?_, ?_, ?_, ?_⟩
  · intro d hd
    exact ⟨FixedWidth.Date.holds_dayNumber hd, Date.ofDayNumber_dayNumber hd⟩
  · intro n
    rw [← hlast]
    exact Date.exists_ofDayNumber_iff
  · intro n d h
    obtain ⟨hvalid, hn⟩ := Date.ofDayNumber_eq_ok_iff.1 h
    exact ⟨hvalid.fits32, Date.ofYmd_eq_ok_iff.2 ⟨hvalid, rfl⟩, hn⟩
  · intro n hn
    exact Date.ofDayNumber_of_lt hn
  · intro n hn
    exact Date.ofDayNumber_of_gt (hlast ▸ hn)
  · -- the rest says that words hold the computation
    intro n hn
    exact FixedWidth.Date.ofDayNumber_eq .gregorian hn
  · intro f hf
    exact FixedWidth.Date.ofYmd_eq .gregorian hf.1
  · intro d hd
    exact FixedWidth.Date.dayNumber_eq_ok hd

/-- A leap day at the end of a cycle of 400 years, and a day on either side of all dates. -/
theorem gregorian_days_exact_leap_day :
    Date.ofDayNumber .gregorian 2451604 = .ok ⟨⟨2000, 2, 29⟩⟩ ∧
    Date.ofYmd .gregorian ⟨2000, 2, 29⟩ = .ok ⟨⟨2000, 2, 29⟩⟩ ∧
    (∃ year, Date.ofDayNumber .gregorian (-1000000000000) = .error (.unsupportedYear year) ∧
      year < -2147483648) ∧
    (∃ year, Date.ofDayNumber .gregorian 1000000000000 = .error (.unsupportedYear year) ∧
      2147483647 < year) ∧
    FixedWidth.Date.ofDayNumber .gregorian 2451604 = Checked.ofExcept (.ok ⟨⟨2000, 2, 29⟩⟩) ∧
    FixedWidth.Date.ofYmd .gregorian ⟨2000, 2, 29⟩ = Checked.ofExcept (.ok ⟨⟨2000, 2, 29⟩⟩) ∧
    FixedWidth.Date.dayNumber (⟨⟨2000, 2, 29⟩⟩ : Date .gregorian) = .ok 2451604 := by
  obtain ⟨hback, -, hfound, hlow, hhigh, hwords, hfields, hdays⟩ := gregorian_days_exact
  have hvalid : (⟨⟨2000, 2, 29⟩⟩ : Date .gregorian).Valid := by decide
  have hday : (⟨⟨2000, 2, 29⟩⟩ : Date .gregorian).dayNumber = 2451604 := by decide
  have hdate := (hback _ hvalid).2
  rw [hday] at hdate
  obtain ⟨hfits, hofYmd, -⟩ := hfound _ _ hdate
  refine ⟨hdate, hofYmd, hlow _ (by decide), hhigh _ (by decide), ?_, ?_, ?_⟩
  · rw [hwords 2451604 (by decide), hdate]
  · rw [hfields _ hfits, hofYmd]
  · rw [hdays _ hvalid, hday]

end PersianCalendar
