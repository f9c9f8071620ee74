import PersianCalendar.Proofs.Persian.Timestamp

/-!
# Shown dates that are shown again

What is shown for a text is the placeholder or a date (`Persian.display_cases`), and when it is shown
again its year says once more in which calendar it is.  Below the threshold it is taken for the Jalali
date that it is, and stays (`Persian.display_shortForm`).  From there on it is taken for a Gregorian
date, which lies on an earlier day (`Date.dayNumber_lt_of_year`), so something else is shown for it
(`Persian.display_shortForm_ne`).
-/

namespace PersianCalendar

open Outcome Reading

/-- A Gregorian date comes before the Jalali dates in years of the same and of greater numbers. -/
lemma Date.dayNumber_lt_of_year {g : Date .gregorian} {d : Date .jalali} (hg : g.Valid) (hd : d.Valid)
    (hyear : g.year ≤ d.year) : g.dayNumber < d.dayNumber := by
  have hstart : Gregorian.dayNumber (d.year + 621) 1 1 ≤ Jalali.firstOf d.year :=
    (Jalali.firstOf_bounds hd.1).1
  have hfirst : Jalali.firstOf d.year ≤ d.dayNumber := by
    rw [Jalali.firstOf_eq]
    exact Calendar.dayNumber_year_first_le hd.2
  have hbefore : g.dayNumber < Gregorian.dayNumber (d.year + 621) 1 1 :=
    Calendar.dayNumber_lt_year hg.2 (by omega) trivial trivial
  omega

namespace Persian

variable {d j : Date .jalali} {f : Ymd} {s : String}

/-! ### What is shown -/

lemma valid_of_jalaliOfFields (h : jalaliOfFields f = .ok d) : d.Valid := by
  rw [jalaliOfFields] at h
  split at h
  · exact (Date.ofYmd_eq_ok_iff.1 h).1
  · obtain ⟨g, -, hconvert⟩ := bind_eq_ok.1 h
    exact (Date.convert_eq_ok_iff.1 hconvert).1

lemma display_cases (s : String) :
    display s = placeholder ∨ ∃ d, d.Valid ∧ display s = shortForm d := by
  rw [display]
  cases htext : ofTimestamp s with
  | error e => exact Or.inl rfl
  | ok text =>
    obtain ⟨d, hdate, rfl⟩ := map_eq_ok.1 htext
    obtain ⟨f, -, hfields⟩ := bind_eq_ok.1 hdate
    exact Or.inr ⟨d, valid_of_jalaliOfFields (mapError_eq_ok.1 hfields), rfl⟩

lemma read_shortForm (h : d.Valid) : Date.read .jalali (shortForm d) = .ok d :=
  dateOfChars_of_clean h (by simp) (Date.natAbs_year_le h)

lemma shortForm_inj (hd : d.Valid) (hj : j.Valid) (h : shortForm d = shortForm j) : d = j := by
  have hread := read_shortForm hd
  rw [h, read_shortForm hj] at hread
  exact (Except.ok.inj hread).symm

/-! ### What is shown for a shown date -/

lemma ofTimestamp_shortForm (h : d.Valid) :
    ofTimestamp (shortForm d) = (ReadError.ofDate (jalaliOfFields d.toYmd)).map shortForm := by
  have hclean : Text.clean (shortForm d).toList = d.chars ++ [] := by
    simp
  exact ofTimestamp_of_clean h (Date.natAbs_year_le h) hclean nofun

/-- The fields of a Jalali date are not those of the Gregorian date of the same day. -/
lemma jalaliOfFields_ne (h : d.Valid) (hyear : gregorianThreshold ≤ d.year) :
    jalaliOfFields d.toYmd ≠ .ok d := by
  intro hfields
  rw [jalaliOfFields, if_neg (Int.not_lt.2 hyear)] at hfields
  obtain ⟨g, hg, hconvert⟩ := bind_eq_ok.1 hfields
  obtain ⟨hvalid, hsame⟩ := Date.ofYmd_eq_ok_iff.1 hg
  have hday : d.dayNumber = g.dayNumber := (Date.convert_eq_ok_iff.1 hconvert).2
  have hlt := Date.dayNumber_lt_of_year hvalid h (Int.le_of_eq (congrArg Ymd.year hsame))
  omega

lemma display_shortForm (h : d.Valid) (hyear : d.year < gregorianThreshold) :
    display (shortForm d) = shortForm d := by
  rw [display, ofTimestamp_shortForm h, jalaliOfFields_of_lt h hyear]
  rfl

lemma display_shortForm_ne (h : d.Valid) (hyear : gregorianThreshold ≤ d.year) :
    display (shortForm d) ≠ shortForm d := by
  rw [display, ofTimestamp_shortForm h]
  cases hfields : jalaliOfFields d.toYmd with
  | error e => exact (shortForm_ne_placeholder d).symm
  | ok j =>
    intro hsame
    have hj : j.Valid := valid_of_jalaliOfFields hfields
    rw [shortForm_inj hj h hsame] at hfields
    exact jalaliOfFields_ne h hyear hfields

lemma display_shortForm_eq_iff (h : d.Valid) :
    display (shortForm d) = shortForm d ↔ d.year < gregorianThreshold := by
  constructor
  · intro hsame
    by_contra hyear
    exact display_shortForm_ne h (Int.not_lt.1 hyear) hsame
  · exact display_shortForm h

lemma display_placeholder : display placeholder = placeholder := rfl

/-- The date is shown for the text, and what is shown is read as this date. -/
structure Shows (s : String) (d : Date .jalali) : Prop where
  valid : d.Valid
  display_eq : display s = shortForm d
  read_eq : Date.read .jalali (display s) = .ok d

/-- For every text the placeholder or a date is shown, and a date that is shown can be read again.
What is shown stays the same when it is shown again exactly if it is the placeholder or a date in a year
below the threshold. -/
theorem shown_again (s : String) :
    (display s = placeholder ∨ ∃ d, Shows s d) ∧
    (display (display s) = display s ↔
      display s = placeholder ∨ ∃ d, Shows s d ∧ d.year < gregorianThreshold) ∧
    FixedWidth.Reading.display s = .ok (display s) := by
  have hcases : display s = placeholder ∨ ∃ d, Shows s d := by
    refine (display_cases s).imp_right ?_
    rintro ⟨d, hd, hshown⟩
    refine ⟨d, hd, hshown, ?_⟩
    rw [hshown]
    exact read_shortForm hd
  refine ⟨hcases, ?_, FixedWidth.Reading.display_eq_ok s⟩
  constructor
  · intro hsame
    refine hcases.imp_right ?_
    rintro ⟨d, hd⟩
    rw [hd.display_eq] at hsame
    exact ⟨d, hd, (display_shortForm_eq_iff hd.valid).1 hsame⟩
  · rintro (hnone | ⟨d, hd, hyear⟩)
    · rw [hnone]
      exact display_placeholder
    · rw [hd.display_eq]
      exact display_shortForm hd.valid hyear

/-- Two days in a row on the two sides of the threshold: the last day of 1699 stays when it is shown
again, and the first of 1700 does not. -/
theorem shown_again_at_threshold :
    display "2321-03-20" = "۱۶۹۹/۱۲/۲۹" ∧ display (display "2321-03-20") = display "2321-03-20" ∧
    display "2321-03-21T00:00" = "۱۷۰۰/۰۱/۰۱" ∧
    display (display "2321-03-21T00:00") ≠ display "2321-03-21T00:00" := by
  have hlast : display "2321-03-20" = "۱۶۹۹/۱۲/۲۹" := rfl
  have habove : display "2321-03-21T00:00" = "۱۷۰۰/۰۱/۰۱" := rfl
  have hbelow : Shows "2321-03-20" ⟨⟨1699, 12, 29⟩⟩ := ⟨by decide, hlast, by rw [hlast]; rfl⟩
  refine ⟨hlast, ?_, habove, ?_⟩
  · exact (shown_again "2321-03-20").2.1.2 (Or.inr ⟨_, hbelow, by decide⟩)
  · intro hsame
    rcases (shown_again "2321-03-21T00:00").2.1.1 hsame with hnone | ⟨d, hd, hyear⟩
    · rw [habove] at hnone
      exact absurd hnone (by decide)
    · -- the date that is shown is the one that is read
      have hread := hd.read_eq
      rw [habove] at hread
      cases hread
      exact absurd hyear (by decide)

end Persian

end PersianCalendar
