import PersianCalendar.Proofs.FixedWidth.Date

/-!
# Counting days from date to date

Moving a date by a count of days leads to the date whose day number is the sum
(`Date.addDays_eq_ok_iff`), and to no date when the sum lies outside the supported years, on the side
to which the date was moved (`Date.exists_of_addDays_eq_error`).  From these two rules it follows that
moves add up (`Date.addDays_addDays`), that each is undone by the opposite one, and that it makes no
difference whether a date is moved or converted first (`Date.addDays_iff_toGregorian`).
-/

namespace PersianCalendar

open FixedWidth (Checked)

variable {c : Calendar}

namespace Date

variable {d e f : Date c} {a b : Int}

/-- The day numbers of dates have twelve places, far fewer than a word of 64 bits holds. -/
lemma Valid.dayNumber_bounds (h : d.Valid) :
    -1000000000000 < d.dayNumber ∧ d.dayNumber < 1000000000000 := by
  have hcalendar : -1000000000000 < c.firstDay ∧ c.lastDay < 1000000000000 := by
    cases c <;> decide
  exact ⟨Int.lt_of_lt_of_le hcalendar.1 h.firstDay_le, Int.lt_of_le_of_lt h.le_lastDay hcalendar.2⟩

/-! ### Where a move leads -/

/-- A date is reached by a count of days exactly if its day number is the sum. -/
lemma addDays_eq_ok_iff : d.addDays a = .ok e ↔ e.Valid ∧ e.dayNumber = d.dayNumber + a := by
  simp only [addDays]
  by_cases hholds : Width.signed64.Holds (d.dayNumber + a)
  · rw [if_pos hholds]
    exact ofDayNumber_eq_ok_iff
  · rw [if_neg hholds]
    constructor
    · rintro ⟨⟩
    · -- the day number of a date fits in its word
      rintro ⟨he, hsum⟩
      exact absurd (hsum ▸ FixedWidth.Date.holds_dayNumber he) hholds

/-- A move that leads to no date goes beyond the supported years, back or on. -/
lemma exists_of_addDays_eq_error {err : DateError} (hd : d.Valid) (h : d.addDays a = .error err) :
    ∃ year, err = .unsupportedYear year ∧
      (a < 0 ∧ year < c.firstYear ∨ 0 < a ∧ c.lastYear < year) := by
  simp only [addDays] at h
  split at h
  · rcases ofDayNumber_cases c (d.dayNumber + a) with ⟨e, he, -⟩ | ⟨year, hyear, hbeyond⟩
    · rw [he] at h
      cases h
    · rw [hyear] at h
      cases h
      have hfirst := hd.firstDay_le
      have hlast := hd.le_lastDay
      refine ⟨year, rfl, hbeyond.imp ?_ ?_⟩
      · rintro ⟨hlow, hside⟩
        exact ⟨by omega, hside⟩
      · rintro ⟨hhigh, hside⟩
        exact ⟨by omega, hside⟩
  · -- the sum does not fit in its word, so the bound of the word stands for the year
    rename_i hholds
    cases h
    have hwords : Width.signed64.least < c.firstYear ∧ c.lastYear < Width.signed64.greatest := by
      cases c <;> decide
    refine ⟨_, rfl, ?_⟩
    rcases Int.lt_trichotomy a 0 with hneg | rfl | hpos
    · rw [Width.bound, if_pos hneg]
      exact Or.inl ⟨hneg, hwords.1⟩
    · rw [Int.add_zero] at hholds
      exact absurd (FixedWidth.Date.holds_dayNumber hd) hholds
    · rw [Width.bound, if_neg (by omega)]
      exact Or.inr ⟨hpos, hwords.2⟩

/-! ### Moves one after the other -/

/-- A count that leaves the word from one date leaves it on the same side from every other. -/
lemma bound_add_eq (hd : d.Valid) (hf : f.Valid) (hsum : f.dayNumber = d.dayNumber + a)
    (h : ¬Width.signed64.Holds (f.dayNumber + b)) :
    Width.signed64.bound b = Width.signed64.bound (a + b) := by
  obtain ⟨hd1, hd2⟩ := hd.dayNumber_bounds
  obtain ⟨hf1, hf2⟩ := hf.dayNumber_bounds
  simp at h
  have hsign : b < 0 ↔ a + b < 0 := by omega
  simp only [Width.bound, hsign]

/-- Two moves make up the move by the sum, refusals included. -/
lemma addDays_addDays (hd : d.Valid) (h : d.addDays a = .ok f) :
    f.addDays b = d.addDays (a + b) := by
  obtain ⟨hf, hsum⟩ := addDays_eq_ok_iff.1 h
  have htotal : f.dayNumber + b = d.dayNumber + (a + b) := by omega
  by_cases hholds : Width.signed64.Holds (f.dayNumber + b)
  · simp only [addDays, ← htotal, if_pos hholds]
  · simp only [addDays, ← htotal, if_neg hholds, bound_add_eq hd hf hsum hholds]

lemma addDays_neg (hd : d.Valid) (h : d.addDays a = .ok f) : f.addDays (-a) = .ok d := by
  obtain ⟨-, hsum⟩ := addDays_eq_ok_iff.1 h
  exact addDays_eq_ok_iff.2 ⟨hd, by omega⟩

lemma addDays_daysUntil (he : e.Valid) : d.addDays (d.daysUntil e) = .ok e :=
  addDays_eq_ok_iff.2 ⟨he, by simp only [daysUntil]; omega⟩

lemma daysUntil_of_addDays (h : d.addDays a = .ok f) : d.daysUntil f = a := by
  obtain ⟨-, hsum⟩ := addDays_eq_ok_iff.1 h
  simp only [daysUntil]
  omega

/-- The number of days between two dates has 64 bits, forwards and back. -/
lemma holds_daysUntil (hd : d.Valid) (he : e.Valid) : Width.signed64.Holds (d.daysUntil e) := by
  have hd' := hd.dayNumber_bounds
  have he' := he.dayNumber_bounds
  simp [daysUntil]
  omega

end Date

/-- Counts of days act on the dates of a calendar as the integers do.  The count between two dates
leads from one to the other, a count that leads somewhere is the one between the two dates and is
undone by its opposite, and two counts one after the other are their sum.  Where a count leads nowhere,
the error is a year on the side of the count.  In words of fixed width the moves are the same. -/
theorem addDays_action :
    (∀ (c : Calendar) (d e : Date c), d.Valid → e.Valid →
      Width.signed64.Holds (d.daysUntil e) ∧ d.addDays (d.daysUntil e) = .ok e) ∧
    (∀ (c : Calendar) (d f : Date c) (a : Int), d.Valid → d.addDays a = .ok f →
      f.Valid ∧ d.daysUntil f = a ∧ Width.signed64.Holds (-a) ∧ f.addDays (-a) = .ok d ∧
      ∀ b, f.addDays b = d.addDays (a + b)) ∧
    (∀ (c : Calendar) (d : Date c) (a : Int) (err : DateError), d.Valid →
      d.addDays a = .error err → ∃ year, err = .unsupportedYear year ∧
        (a < 0 ∧ year < c.firstYear ∨ 0 < a ∧ c.lastYear < year)) ∧
    (∀ (c : Calendar) (d : Date c), d.Valid →
      (∀ a, Width.signed64.Holds a →
        FixedWidth.Date.addDays d a = Checked.ofExcept (d.addDays a)) ∧
      ∀ e, e.Valid → FixedWidth.Date.daysUntil d e = .ok (d.daysUntil e)) := by
  refine ⟨?_, ?_, ?_, ?_⟩
  · intro c d e hd he
    exact ⟨Date.holds_daysUntil hd he, Date.addDays_daysUntil he⟩
  · intro c d f a hd h
    have hf : f.Valid := (Date.addDays_eq_ok_iff.1 h).1
    have hback := Date.addDays_neg hd h
    have hopposite : Width.signed64.Holds (-a) := by
      rw [← Date.daysUntil_of_addDays hback]
      exact Date.holds_daysUntil hf hd
    exact ⟨hf, Date.daysUntil_of_addDays h, hopposite, hback, fun b => Date.addDays_addDays hd h⟩
  · intro c d a err hd h
    exact Date.exists_of_addDays_eq_error hd h
  · intro c d hd
    exact ⟨fun a _ => FixedWidth.Date.addDays_eq hd a,
      fun e he => FixedWidth.Date.daysUntil_eq_ok hd he⟩

/-- A step over the end of a leap year and back, and counts that leave the word and the calendar. -/
theorem addDays_action_leap_day :
    (⟨⟨1403, 12, 30⟩⟩ : Date .jalali).addDays 1 = .ok ⟨⟨1404, 1, 1⟩⟩ ∧
    (⟨⟨1404, 1, 1⟩⟩ : Date .jalali).addDays (-1) = .ok ⟨⟨1403, 12, 30⟩⟩ ∧
    (⟨⟨1404, 1, 1⟩⟩ : Date .jalali).addDays 9223372036854775806 =
      (⟨⟨1403, 12, 30⟩⟩ : Date .jalali).addDays 9223372036854775807 ∧
    (∃ year, (⟨⟨-2147483648, 1, 1⟩⟩ : Date .gregorian).addDays (-1) =
      .error (.unsupportedYear year) ∧ year < -2147483648) ∧
    FixedWidth.Date.addDays (⟨⟨1403, 12, 30⟩⟩ : Date .jalali) 1 =
      Checked.ofExcept (.ok ⟨⟨1404, 1, 1⟩⟩) := by
  obtain ⟨hbetween, hmoved, hrefused, hwords⟩ := addDays_action
  have hleap : (⟨⟨1403, 12, 30⟩⟩ : Date .jalali).Valid := by decide
  have hnew : (⟨⟨1404, 1, 1⟩⟩ : Date .jalali).Valid := by decide
  have hfirst : (⟨⟨-2147483648, 1, 1⟩⟩ : Date .gregorian).Valid := by decide
  have hstep : (⟨⟨1403, 12, 30⟩⟩ : Date .jalali).addDays 1 = .ok ⟨⟨1404, 1, 1⟩⟩ :=
    (hbetween _ _ _ hleap hnew).2
  have hbefore : (⟨⟨-2147483648, 1, 1⟩⟩ : Date .gregorian).addDays (-1) =
      .error (.unsupportedYear (-2147483649)) := rfl
  obtain ⟨-, -, -, hback, hsum⟩ := hmoved _ _ _ _ hleap hstep
  refine ⟨hstep, hback, hsum 9223372036854775806, ?_, ?_⟩
  · obtain ⟨year, hyear, ⟨-, hlow⟩ | ⟨hpos, -⟩⟩ := hrefused _ _ _ _ hfirst hbefore
    · exact ⟨year, hyear ▸ hbefore, hlow⟩
    · exact absurd hpos (by decide)
  · rw [(hwords _ _ hleap).1 1 (by decide), hstep]

/-! ### Moving and converting -/

namespace Date

variable {d e : Date .jalali} {g : Date .gregorian} {n : Int}

/-- A Jalali date is reached exactly if its Gregorian date is reached from the other Gregorian date. -/
lemma addDays_iff_toGregorian :
    d.addDays n = .ok e ↔ ∃ g, d.toGregorian.addDays n = .ok g ∧ g.convert .jalali = .ok e := by
  constructor
  · intro h
    obtain ⟨he, hsum⟩ := addDays_eq_ok_iff.1 h
    rw [← dayNumber_toGregorian, ← dayNumber_toGregorian] at hsum
    exact ⟨e.toGregorian, addDays_eq_ok_iff.2 ⟨valid_toGregorian he, hsum⟩,
      convert_eq_ok_iff.2 ⟨he, (dayNumber_toGregorian e).symm⟩⟩
  · rintro ⟨g, hg, hconvert⟩
    obtain ⟨-, hsum⟩ := addDays_eq_ok_iff.1 hg
    obtain ⟨he, hday⟩ := convert_eq_ok_iff.1 hconvert
    rw [dayNumber_toGregorian] at hsum
    exact addDays_eq_ok_iff.2 ⟨he, hday.trans hsum⟩

/-- A Gregorian date is the one of the Jalali date to which it is converted. -/
lemma toGregorian_of_convert (hg : g.Valid) (h : g.convert .jalali = .ok e) : e.toGregorian = g := by
  obtain ⟨he, hday⟩ := convert_eq_ok_iff.1 h
  exact (toGregorian_eq_iff he).2 ⟨hg, hday.symm⟩

/-- The Gregorian date of a day is that of its Jalali date. -/
lemma ofDayNumber_gregorian_of_jalali (h : ofDayNumber .jalali n = .ok e) :
    ofDayNumber .gregorian n = .ok e.toGregorian := by
  obtain ⟨he, rfl⟩ := ofDayNumber_eq_ok_iff.1 h
  exact ofDayNumber_eq_ok_iff.2 ⟨valid_toGregorian he, dayNumber_toGregorian e⟩

end Date

/-- A Jalali date is moved to another one exactly if its Gregorian date is moved to a date that is
converted to this one, and then the two have the same Gregorian date.  A day with a Jalali date has the
Gregorian date of the same day.  In words of fixed width both ways are the same. -/
theorem addDays_commutes_with_conversion :
    (∀ (d e : Date .jalali) (n : Int), d.Valid →
      (d.addDays n = .ok e ↔
        ∃ g, d.toGregorian.addDays n = .ok g ∧ g.convert .jalali = .ok e) ∧
      ∀ g, d.toGregorian.addDays n = .ok g → g.convert .jalali = .ok e → e.toGregorian = g) ∧
    (∀ (n : Int) (j : Date .jalali), Date.ofDayNumber .jalali n = .ok j →
      Date.ofDayNumber .gregorian n = .ok j.toGregorian) ∧
    (∀ d : Date .jalali, d.Valid →
      d.toGregorian.Valid ∧ FixedWidth.Date.toGregorian d = .ok d.toGregorian) ∧
    (∀ (c : Calendar) (d : Date c), d.Valid →
      (∀ n, Width.signed64.Holds n →
        FixedWidth.Date.addDays d n = Checked.ofExcept (d.addDays n)) ∧
      ∀ target, FixedWidth.Date.convert d target = Checked.ofExcept (d.convert target)) ∧
    (∀ c n, Width.signed64.Holds n →
      FixedWidth.Date.ofDayNumber c n = Checked.ofExcept (Date.ofDayNumber c n)) := by
  refine ⟨?_, ?_, ?_, ?_, ?_⟩
  · intro d e n _
    refine ⟨Date.addDays_iff_toGregorian, ?_⟩
    intro g hg hconvert
    exact Date.toGregorian_of_convert (Date.addDays_eq_ok_iff.1 hg).1 hconvert
  · intro n j h
    exact Date.ofDayNumber_gregorian_of_jalali h
  · -- the rest says that words hold the computation
    intro d hd
    exact ⟨Date.valid_toGregorian hd, FixedWidth.Date.toGregorian_eq_ok hd⟩
  · intro c d hd
    exact ⟨fun n _ => FixedWidth.Date.addDays_eq hd n,
      fun target => FixedWidth.Date.convert_eq hd⟩
  · intro c n hn
    exact FixedWidth.Date.ofDayNumber_eq c hn

/-- From 30 Esfand 1403 to the first day of 1404 in both calendars, and a day after the last Jalali date
that has a Gregorian one only. -/
theorem addDays_commutes_with_conversion_leap_day :
    (⟨⟨1403, 12, 30⟩⟩ : Date .jalali).addDays 1 = .ok ⟨⟨1404, 1, 1⟩⟩ ∧
    (⟨⟨1404, 1, 1⟩⟩ : Date .jalali).toGregorian = ⟨⟨2025, 3, 21⟩⟩ ∧
    Date.ofDayNumber .gregorian 2460755 = .ok ⟨⟨2025, 3, 20⟩⟩ ∧
    (∀ e, (⟨⟨1403, 12, 30⟩⟩ : Date .jalali).addDays 1000000 ≠ .ok e) ∧
    (⟨⟨1403, 12, 30⟩⟩ : Date .jalali).toGregorian.Valid ∧
    FixedWidth.Date.addDays (⟨⟨2025, 3, 20⟩⟩ : Date .gregorian) 1 =
      Checked.ofExcept (.ok ⟨⟨2025, 3, 21⟩⟩) ∧
    FixedWidth.Date.ofDayNumber .jalali 2460755 = Checked.ofExcept (.ok ⟨⟨1403, 12, 30⟩⟩) := by
  obtain ⟨hmoves, hdays, hjalali, hdates, hwords⟩ := addDays_commutes_with_conversion
  have hleap : (⟨⟨1403, 12, 30⟩⟩ : Date .jalali).Valid := by decide
  have hleap' : (⟨⟨2025, 3, 20⟩⟩ : Date .gregorian).Valid := by decide
  have hmove : (⟨⟨1403, 12, 30⟩⟩ : Date .jalali).toGregorian.addDays 1 = .ok ⟨⟨2025, 3, 21⟩⟩ := rfl
  have hconvert : (⟨⟨2025, 3, 21⟩⟩ : Date .gregorian).convert .jalali = .ok ⟨⟨1404, 1, 1⟩⟩ := rfl
  have hday : Date.ofDayNumber .jalali 2460755 = .ok ⟨⟨1403, 12, 30⟩⟩ := rfl
  refine ⟨(hmoves _ _ 1 hleap).1.2 ⟨_, hmove, hconvert⟩, (hmoves _ _ 1 hleap).2 _ hmove hconvert,
    hdays _ _ hday, ?_, (hjalali _ hleap).1, ?_, ?_⟩
  · intro e he
    obtain ⟨g, hg, hnone⟩ := (hmoves _ _ _ hleap).1.1 he
    cases hg
    cases hnone
  · rw [(hdates _ _ hleap').1 1 (by decide)]
    rfl
  · rw [hwords .jalali 2460755 (by decide), hday]

end PersianCalendar
