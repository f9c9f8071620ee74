import PersianCalendar.Proofs.Jalali.Fields

/-!
# Dates and day numbers are inverse

`Date.ofDayNumber` undoes `Date.dayNumber` in either calendar: it finds a date exactly when there is
one with that day number (`Date.ofDayNumber_eq_ok_iff`), which is when the day lies in the supported
years (`Date.exists_ofDayNumber_iff`), and refuses every other day with a year on its side of them
(`Date.ofDayNumber_of_not_mem`).
-/

namespace PersianCalendar.Date

variable {c : Calendar} {n : Int}

lemma dayNumber_injective {d e : Date c} (hd : d.Valid) (he : e.Valid)
    (h : d.dayNumber = e.dayNumber) : d = e := by
  have hfields : d.toYmd = e.toYmd :=
    Calendar.eq_of_dayNumber_eq hd.2 he.2 (.of_supports hd.1) (.of_supports he.1) h
  cases d
  cases e
  exact congrArg Date.mk hfields

/-! ### The Gregorian search -/

lemma gregorian_of_gt (h : lastDayNumber < n) :
    ofDayNumber .gregorian n = .error (.unsupportedYear Width.signed64.greatest) := by
  simp only [ofDayNumber, Gregorian.fieldsOfDay, if_pos h]
  rfl

lemma gregorian_of_supports (h : ¬lastDayNumber < n)
    (hs : Calendar.gregorian.Supports (Gregorian.ofDayNumber n).year) :
    ofDayNumber .gregorian n = .ok ⟨Gregorian.ofDayNumber n⟩ := by
  simp only [ofDayNumber, Gregorian.fieldsOfDay, if_neg h]
  exact if_pos hs

lemma gregorian_of_not_supports (h : ¬lastDayNumber < n)
    (hs : ¬Calendar.gregorian.Supports (Gregorian.ofDayNumber n).year) :
    ofDayNumber .gregorian n = .error (.unsupportedYear (Gregorian.ofDayNumber n).year) := by
  simp only [ofDayNumber, Gregorian.fieldsOfDay, if_neg h]
  exact if_neg hs

/-- The fields found for a day number exist, in one of all years. -/
lemma hasDay_gregorian (n : Int) : Calendar.gregorian.HasDay (Gregorian.ofDayNumber n) :=
  ⟨Gregorian.ofDayNumber_month n, Gregorian.ofDayNumber_day n⟩

/-! ### The date of a day number -/

/-- A day number is that of a date, which is found, or it is refused. -/
lemma ofDayNumber_cases (c : Calendar) (n : Int) :
    (∃ d, ofDayNumber c n = .ok d ∧ d.Valid ∧ d.dayNumber = n) ∨
      ∃ year, ofDayNumber c n = .error (.unsupportedYear year) ∧ c.Beyond n year := by
  cases c with
  | jalali =>
    rcases Jalali.outcome_fieldsOfDay n with ⟨f, hf, hsupported, hday, hn⟩ | ⟨year, hyear, hout⟩
    · refine Or.inl ⟨⟨f⟩, ?_, ⟨hsupported, hday⟩, hn⟩
      simp only [ofDayNumber, hf]
      rfl
    · refine Or.inr ⟨year, ?_, hout⟩
      simp only [ofDayNumber, hyear]
      rfl
  | gregorian =>
    by_cases hlast : lastDayNumber < n
    · exact Or.inr ⟨_, gregorian_of_gt hlast,
        Or.inr ⟨Int.lt_trans (by decide) hlast, by decide⟩⟩
    have hday := hasDay_gregorian n
    have hn : Calendar.gregorian.dayNumber (Gregorian.ofDayNumber n) = n :=
      Gregorian.dayNumber_ofDayNumber n
    by_cases hs : Calendar.gregorian.Supports (Gregorian.ofDayNumber n).year
    · exact Or.inl ⟨_, gregorian_of_supports hlast hs, ⟨hs, hday⟩, hn⟩
    · have hout := Calendar.beyond_of_not_supports hday trivial hs
      rw [hn] at hout
      exact Or.inr ⟨_, gregorian_of_not_supports hlast hs, hout⟩

/-- A date is found for a day number exactly if it has that day number. -/
lemma ofDayNumber_eq_ok_iff {d : Date c} :
    ofDayNumber c n = .ok d ↔ d.Valid ∧ d.dayNumber = n := by
  rcases ofDayNumber_cases c n with ⟨e, he, hvalid, hn⟩ | ⟨year, hyear, hout⟩
  · rw [he]
    constructor
    · intro h
      cases h
      exact ⟨hvalid, hn⟩
    · rintro ⟨hd, hdn⟩
      rw [dayNumber_injective hd hvalid (hdn.trans hn.symm)]
  · rw [hyear]
    constructor
    · intro h
      cases h
    · rintro ⟨hd, rfl⟩
      -- a date lies in the supported years, the day refused does not
      have hfirst := hd.firstDay_le
      have hlast := hd.le_lastDay
      rcases hout with ⟨h, -⟩ | ⟨h, -⟩ <;> omega

lemma ofDayNumber_dayNumber {d : Date c} (h : d.Valid) : ofDayNumber c d.dayNumber = .ok d :=
  ofDayNumber_eq_ok_iff.2 ⟨h, rfl⟩

/-- The days that are found are those of the supported years. -/
lemma exists_ofDayNumber_iff :
    (∃ d, ofDayNumber c n = .ok d) ↔ c.firstDay ≤ n ∧ n ≤ c.lastDay := by
  constructor
  · rintro ⟨d, hd⟩
    obtain ⟨hvalid, rfl⟩ := ofDayNumber_eq_ok_iff.1 hd
    exact ⟨hvalid.firstDay_le, hvalid.le_lastDay⟩
  · rintro ⟨hfirst, hlast⟩
    rcases ofDayNumber_cases c n with ⟨d, hd, -⟩ | ⟨year, -, h | h⟩
    · exact ⟨d, hd⟩
    · exact absurd h.1 (by omega)
    · exact absurd h.1 (by omega)

/-- Every other day is refused with a year on its side. -/
lemma ofDayNumber_of_not_mem (h : ¬(c.firstDay ≤ n ∧ n ≤ c.lastDay)) :
    ∃ year, ofDayNumber c n = .error (.unsupportedYear year) ∧ c.Beyond n year := by
  rcases ofDayNumber_cases c n with ⟨d, hd, -⟩ | hrefused
  · exact absurd (exists_ofDayNumber_iff.1 ⟨d, hd⟩) h
  · exact hrefused

lemma ofDayNumber_of_lt (h : n < c.firstDay) :
    ∃ year, ofDayNumber c n = .error (.unsupportedYear year) ∧ year < c.firstYear := by
  have hle : c.firstDay ≤ c.lastDay := Calendar.firstDay_le c.supports_lastYear (c.hasDay_last _)
  have hnot : ¬(c.firstDay ≤ n ∧ n ≤ c.lastDay) := by omega
  obtain ⟨year, hyear, ⟨-, hlow⟩ | ⟨hhigh, -⟩⟩ := ofDayNumber_of_not_mem hnot
  · exact ⟨year, hyear, hlow⟩
  · omega

lemma ofDayNumber_of_gt (h : c.lastDay < n) :
    ∃ year, ofDayNumber c n = .error (.unsupportedYear year) ∧ c.lastYear < year := by
  have hle : c.firstDay ≤ c.lastDay := Calendar.firstDay_le c.supports_lastYear (c.hasDay_last _)
  have hnot : ¬(c.firstDay ≤ n ∧ n ≤ c.lastDay) := by omega
  obtain ⟨year, hyear, ⟨hlow, -⟩ | ⟨-, hhigh⟩⟩ := ofDayNumber_of_not_mem hnot
  · omega
  · exact ⟨year, hyear, hhigh⟩

/-! ### The Jalali fields of a day number -/

variable {d : Date .jalali} {e : DateError}

lemma jalali_eq_map (n : Int) : ofDayNumber .jalali n = (Jalali.fieldsOfDay n).map Date.mk := by
  simp only [ofDayNumber]
  cases Jalali.fieldsOfDay n <;> rfl

lemma fieldsOfDay_eq_ok_iff :
    Jalali.fieldsOfDay n = .ok d.toYmd ↔ ofDayNumber .jalali n = .ok d := by
  rw [jalali_eq_map]
  cases Jalali.fieldsOfDay n with
  | error _ => simp only [Except.map, reduceCtorEq]
  | ok f =>
    simp only [Except.map]
    constructor
    · rintro ⟨⟩
      rfl
    · rintro ⟨⟩
      rfl

lemma fieldsOfDay_eq_error_iff :
    Jalali.fieldsOfDay n = .error e ↔ ofDayNumber .jalali n = .error e := by
  rw [jalali_eq_map]
  cases Jalali.fieldsOfDay n with
  | error _ => simp only [Except.map, Except.error.injEq]
  | ok f => simp only [Except.map, reduceCtorEq]

/-- The day number of the fields of a date is that of the date. -/
lemma dayNumber_fields (h : d.Valid) :
    Jalali.dayNumber d.year d.month d.day = .ok d.dayNumber := by
  rw [Jalali.dayNumber, Jalali.YearStart.ofYear_of_supported h.1]
  rfl

end PersianCalendar.Date
