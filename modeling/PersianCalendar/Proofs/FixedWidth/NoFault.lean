import PersianCalendar.Proofs.FixedWidth.Reading

/-!
# What checks its input does not fault

The routines underneath do fault: the day number of a Gregorian date for the last years of 64 bits,
the split of a day number for the last day numbers, the length of a month for a month that there is
not.  Whatever is built on them checks its input first.  Then every step fits in its word and every
item lies in its table, so that the computation in words ends as the exact one does, with the same
result or the same refusal.
-/

namespace PersianCalendar.FixedWidth

open PersianCalendar.Jalali (YearStart)

/-- No computation that checks its input comes to a fault.  The inputs are all years and fields of
32 bits and fields of which the month and the day have 8, all day numbers and day counts of 64 bits,
all valid dates, and all texts, with thresholds of 32 bits. -/
theorem no_fault :
    (∀ year, Width.signed32.Holds year →
      Jalali.yearStart year = Checked.ofExcept (YearStart.ofYear year) ∧
      Jalali.approximateYearStart year = .ok (YearStart.approximate year) ∧
      Jalali.firstDay (YearStart.approximate year) = .ok (YearStart.approximate year).dayNumber ∧
      ∀ start, YearStart.ofYear year = .ok start → Jalali.firstDay start = .ok start.dayNumber) ∧
    (∀ c (f : Ymd), Width.signed32.Holds f.year → Width.unsigned8.Holds f.month →
      Width.unsigned8.Holds f.day →
      Date.ofNarrowFields c f = Checked.ofExcept (PersianCalendar.Date.ofYmd c f)) ∧
    (∀ f : Ymd, f.Fits32 →
      (∀ c, Date.ofYmd c f = Checked.ofExcept (PersianCalendar.Date.ofYmd c f)) ∧
      Jalali.dayNumber f.year f.month f.day =
        Checked.ofExcept (PersianCalendar.Jalali.dayNumber f.year f.month f.day) ∧
      Date.gregorianFields f = Checked.ofExcept f.toGregorian ∧
      Date.jalaliFields f = Checked.ofExcept f.toJalali) ∧
    (∀ n, Width.signed64.Holds n →
      (∀ c, Date.ofDayNumber c n = Checked.ofExcept (PersianCalendar.Date.ofDayNumber c n)) ∧
      Jalali.ofDayNumber n = Checked.ofExcept (PersianCalendar.Jalali.fieldsOfDay n)) ∧
    (∀ c (d : PersianCalendar.Date c), d.Valid →
      Date.dayNumber d = .ok d.dayNumber ∧
      (∀ days, Width.signed64.Holds days → Date.addDays d days = Checked.ofExcept (d.addDays days)) ∧
      (∀ e : PersianCalendar.Date c, e.Valid → Date.daysUntil d e = .ok (d.daysUntil e)) ∧
      ∀ target, Date.convert d target = Checked.ofExcept (d.convert target)) ∧
    (∀ d : PersianCalendar.Date .jalali, d.Valid →
      Date.toGregorian d = .ok d.toGregorian ∧ Date.ordinal d = .ok d.ordinal) ∧
    (∀ s : String,
      (∀ c, Reading.date c s = Checked.ofExcept (PersianCalendar.Date.read c s)) ∧
      Reading.tagged s = Checked.ofExcept (AnyDate.readTagged s) ∧
      (∀ threshold, Width.signed32.Holds threshold →
        Reading.looseWith threshold s = Checked.ofExcept (AnyDate.readLooseWith threshold s)) ∧
      Reading.ofTimestamp s = Checked.ofExcept (Persian.ofTimestamp s) ∧
      Reading.display s = .ok (Persian.display s)) := by
  refine ⟨?_, ?_, ?_, ?_, ?_, ?_, ?_⟩
  · intro year _
    refine ⟨Jalali.yearStart_eq year, Jalali.approximateYearStart_eq_ok year,
      Jalali.firstDay_eq_ok year, ?_⟩
    intro start hstart
    obtain ⟨-, rfl⟩ := YearStart.ofYear_eq_ok_iff.1 hstart
    exact Jalali.firstDay_eq_ok year
  · intro c f hyear hmonth hday
    exact Date.ofNarrowFields_eq ⟨hmonth, hday⟩ c hyear
  · intro f hf
    exact ⟨fun c => Date.ofYmd_eq c hf.1, Jalali.dayNumber_eq f.year hf.2.1 hf.2.2,
      Date.gregorianFields_eq hf.1, Date.jalaliFields_eq hf.1⟩
  · intro n hn
    exact ⟨fun c => Date.ofDayNumber_eq c hn, Jalali.ofDayNumber_eq hn⟩
  · -- a day count is only added, and the sum is checked, so the width of the count is not needed
    intro c d hd
    exact ⟨Date.dayNumber_eq_ok hd, fun days _ => Date.addDays_eq hd days,
      fun e he => Date.daysUntil_eq_ok hd he, fun target => Date.convert_eq hd⟩
  · intro d hd
    exact ⟨Date.toGregorian_eq_ok hd, Date.ordinal_eq_ok hd⟩
  · -- a threshold is only compared with
    intro s
    exact ⟨fun c => Reading.date_eq c s, Reading.tagged_eq s,
      fun threshold _ => Reading.looseWith_eq threshold s, Reading.ofTimestamp_eq s,
      Reading.display_eq_ok s⟩

/-- The ends of the words, where a sum is nearest to a fault. -/
theorem no_fault_ends :
    Jalali.firstDay (YearStart.approximate 2147483647) = .ok 784354017078 ∧
    Jalali.firstDay ⟨2024, 20, true⟩ = .ok 2460390 ∧
    Date.ofNarrowFields .gregorian ⟨2147483647, 255, 1⟩ =
      Checked.ofExcept (.error (.noSuchDate .gregorian ⟨2147483647, 255, 1⟩)) ∧
    Jalali.dayNumber 1403 2147483647 (-2147483648) =
      Checked.ofExcept (.ok (-658812220851966153)) ∧
    Date.ofDayNumber .gregorian 9223372036854775807 =
      Checked.ofExcept (.error (.unsupportedYear 9223372036854775807)) ∧
    Date.addDays (⟨⟨1403, 12, 30⟩⟩ : PersianCalendar.Date .jalali) 9223372036854775807 =
      Checked.ofExcept (.error (.unsupportedYear 9223372036854775807)) ∧
    Date.daysUntil (⟨⟨-2147483648, 1, 1⟩⟩ : PersianCalendar.Date .gregorian)
      ⟨⟨2147483647, 12, 31⟩⟩ = .ok 1568704592609 ∧
    Date.ordinal ⟨⟨1403, 12, 30⟩⟩ = .ok 366 ∧
    Reading.looseWith 2147483647 "2147483647-12-31" =
      Checked.ofExcept (.ok ⟨.gregorian, ⟨⟨2147483647, 12, 31⟩⟩⟩) := by
  obtain ⟨hyears, hnarrow, hfields, hdays, hdates, hjalali, htexts⟩ := no_fault
  have hleap : (⟨⟨1403, 12, 30⟩⟩ : PersianCalendar.Date .jalali).Valid := by decide
  have hfirst : (⟨⟨-2147483648, 1, 1⟩⟩ : PersianCalendar.Date .gregorian).Valid := by decide
  have hlast : (⟨⟨2147483647, 12, 31⟩⟩ : PersianCalendar.Date .gregorian).Valid := by decide
  exact ⟨(hyears 2147483647 (by decide)).2.2.1, (hyears 1403 (by decide)).2.2.2 _ rfl,
    hnarrow .gregorian _ (by decide) (by decide) (by decide),
    (hfields ⟨1403, 2147483647, -2147483648⟩ (by decide)).2.1,
    (hdays 9223372036854775807 (by decide)).1 .gregorian,
    (hdates .jalali _ hleap).2.1 9223372036854775807 (by decide),
    (hdates .gregorian _ hfirst).2.2.1 _ hlast, (hjalali _ hleap).2,
    (htexts "2147483647-12-31").2.2.1 2147483647 (by decide)⟩

/-- The split of a day number that is not checked does fault. -/
example : Gregorian.ofDayNumber 9223372036854775807 = .error (.overflow .signed64) := rfl

end PersianCalendar.FixedWidth
