import Mathlib.Data.String.Basic
import PersianCalendar.Proofs.Date.Order
import PersianCalendar.Proofs.FixedWidth.Reading
import PersianCalendar.Proofs.Reading.RoundTrip
import PersianCalendar.Proofs.Text.Order

/-!
# Sorting written dates

Years of four digits, months and days always take the same places in a date in figures, so the order
of these texts is the order of the dates (`Date.text_lt_text_iff`), and Persian digits do not change it
(`Persian.shortForm_lt_shortForm_iff`).  Dates that are sorted by their texts are therefore sorted by
their days (`Date.pairwise_map_iff`).
-/

namespace PersianCalendar

variable {c : Calendar} {d e : Date c}

namespace Date

/-- The date is valid, and its year has four digits at most and no sign. -/
structure FillsPlaces (d : Date c) : Prop where
  valid : d.Valid
  year_bounds : 0 ≤ d.year ∧ d.year ≤ 9999

namespace FillsPlaces

lemma of_jalali {d : Date .jalali} (h : d.Valid) (hyear : 0 ≤ d.year) : d.FillsPlaces :=
  ⟨h, hyear, Int.le_trans h.1.2 (by decide)⟩

lemma fits_year (h : d.FillsPlaces) : Decimal.Fits 4 d.year := by
  obtain ⟨-, hlow, hhigh⟩ := h
  exact ⟨hlow, (Nat.length_toDigits_le_iff (by decide) (by decide)).2 (by omega)⟩

lemma fits_month (h : d.FillsPlaces) : Decimal.Fits 2 d.month := by
  have hle : d.month ≤ 12 := h.valid.2.1.2
  exact ⟨h.valid.month_nonneg, (Nat.length_toDigits_le_iff (by decide) (by decide)).2 (by omega)⟩

lemma fits_day (h : d.FillsPlaces) : Decimal.Fits 2 d.day := by
  have hle : d.day ≤ 31 := h.valid.day_le
  exact ⟨h.valid.day_nonneg, (Nat.length_toDigits_le_iff (by decide) (by decide)).2 (by omega)⟩

end FillsPlaces

/-! ### Two dates -/

/-- The fields stand at the same places of both texts, the year in front. -/
lemma chars_lt_chars_iff (hd : d.FillsPlaces) (he : e.FillsPlaces) : d.chars < e.chars ↔ d < e := by
  have hyear : (Decimal.chars 4 d.year).length = (Decimal.chars 4 e.year).length := by
    rw [Decimal.length_chars hd.fits_year, Decimal.length_chars he.fits_year]
  have hmonth : (Decimal.chars 2 d.month).length = (Decimal.chars 2 e.month).length := by
    rw [Decimal.length_chars hd.fits_month, Decimal.length_chars he.fits_month]
  rw [chars, chars, Text.append_lt_append_iff hyear, List.cons_lt_cons_self,
    Text.append_lt_append_iff hmonth, List.cons_lt_cons_self, (Decimal.chars_injective 4).eq_iff,
    (Decimal.chars_injective 2).eq_iff, Decimal.chars_lt_chars_iff hd.fits_year he.fits_year,
    Decimal.chars_lt_chars_iff hd.fits_month he.fits_month,
    Decimal.chars_lt_chars_iff hd.fits_day he.fits_day, lt_iff]

lemma text_lt_text_iff (hd : d.FillsPlaces) (he : e.FillsPlaces) : d.text < e.text ↔ d < e := by
  rw [String.lt_iff_toList_lt, toList_text, toList_text, chars_lt_chars_iff hd he]

end Date

lemma Persian.shortForm_lt_shortForm_iff {d e : Date .jalali} (hd : d.FillsPlaces)
    (he : e.FillsPlaces) : shortForm d < shortForm e ↔ d < e := by
  have hfigures : ∀ f : Date .jalali, ∀ x ∈ f.chars, x ∈ Digit.figures :=
    fun _ _ hx => Digit.mem_figures (Date.isDigit_or_of_mem_chars hx)
  rw [String.lt_iff_toList_lt, toList_shortForm, toList_shortForm,
    Digit.map_persian_lt_iff (hfigures d) (hfigures e), Date.chars_lt_chars_iff hd he]

/-! ### Lists of dates -/

namespace Date

/-- Texts that are ordered as their dates are sorted exactly if the days are. -/
lemma pairwise_map_iff {dates : List (Date c)} {f : Date c → String}
    (hf : ∀ {d e : Date c}, d.FillsPlaces → e.FillsPlaces → (f d < f e ↔ d < e))
    (h : ∀ d ∈ dates, d.FillsPlaces) :
    (dates.map f).Pairwise (· ≤ ·) ↔ dates.Pairwise fun d e => d.dayNumber ≤ e.dayNumber := by
  rw [List.pairwise_map]
  refine List.Pairwise.iff_of_mem fun {d e} hd he => ?_
  have hlt := (hf (h e he) (h d hd)).trans (lt_iff_dayNumber_lt (h e he).valid (h d hd).valid)
  rw [← not_lt, ← not_lt, hlt]

end Date

/-- Dates in years of four digits are ordered as their texts are, by code points, and as their days are.
For Jalali dates the texts may also have Persian digits.  So a list of such dates is sorted by its texts
exactly if it is sorted by its days. -/
theorem texts_sort_by_day :
    (∀ d e : Date .jalali, d.Valid → e.Valid → 0 ≤ d.year → 0 ≤ e.year →
      (d < e ↔ d.text < e.text) ∧ (d < e ↔ Persian.shortForm d < Persian.shortForm e) ∧
      (d < e ↔ d.dayNumber < e.dayNumber)) ∧
    (∀ d e : Date .gregorian, d.Valid → e.Valid → (0 ≤ d.year ∧ d.year ≤ 9999) →
      (0 ≤ e.year ∧ e.year ≤ 9999) →
      (d < e ↔ d.text < e.text) ∧ (d < e ↔ d.dayNumber < e.dayNumber)) ∧
    (∀ dates : List (Date .jalali), (∀ d ∈ dates, d.Valid ∧ 0 ≤ d.year) →
      ((dates.map Date.text).Pairwise (· ≤ ·) ↔
        dates.Pairwise fun d e => d.dayNumber ≤ e.dayNumber) ∧
      ((dates.map Persian.shortForm).Pairwise (· ≤ ·) ↔
        dates.Pairwise fun d e => d.dayNumber ≤ e.dayNumber)) ∧
    (∀ dates : List (Date .gregorian), (∀ d ∈ dates, d.Valid ∧ 0 ≤ d.year ∧ d.year ≤ 9999) →
      ((dates.map Date.text).Pairwise (· ≤ ·) ↔
        dates.Pairwise fun d e => d.dayNumber ≤ e.dayNumber)) ∧
    (∀ (c : Calendar) (d : Date c), d.Valid → FixedWidth.Date.dayNumber d = .ok d.dayNumber) ∧
    ∀ d : Date .jalali, FixedWidth.Reading.shortForm d = .ok (Persian.shortForm d) := by
  refine ⟨?_, ?_, ?_, ?_, fun c d => FixedWidth.Date.dayNumber_eq_ok,
    FixedWidth.Reading.shortForm_eq_ok⟩
  · intro d e hd he hdy hey
    have hdp : d.FillsPlaces := .of_jalali hd hdy
    have hep : e.FillsPlaces := .of_jalali he hey
    exact ⟨(Date.text_lt_text_iff hdp hep).symm, (Persian.shortForm_lt_shortForm_iff hdp hep).symm,
      Date.lt_iff_dayNumber_lt hd he⟩
  · intro d e hd he hdy hey
    exact ⟨(Date.text_lt_text_iff ⟨hd, hdy⟩ ⟨he, hey⟩).symm, Date.lt_iff_dayNumber_lt hd he⟩
  · intro dates h
    have hplaces : ∀ d ∈ dates, d.FillsPlaces := fun d hd => .of_jalali (h d hd).1 (h d hd).2
    exact ⟨Date.pairwise_map_iff Date.text_lt_text_iff hplaces,
      Date.pairwise_map_iff Persian.shortForm_lt_shortForm_iff hplaces⟩
  · intro dates h
    exact Date.pairwise_map_iff Date.text_lt_text_iff fun d hd => ⟨(h d hd).1, (h d hd).2⟩

/-- Zeros in front keep the order: the last day of Jalali year 99 and the first of 100, the leap day of
the Gregorian year 0 and the last day of 9999, and lists of these. -/
theorem texts_sort_by_day_padded :
    "0099/12/29" < "0100/01/01" ∧ "۰۰۹۹/۱۲/۲۹" < "۰۱۰۰/۰۱/۰۱" ∧ "0000-02-29" < "9999-12-31" ∧
    (["0099/12/29", "0100/01/01"].Pairwise (· ≤ ·) ∧
      ["۰۰۹۹/۱۲/۲۹", "۰۱۰۰/۰۱/۰۱"].Pairwise (· ≤ ·)) ∧
    ¬["9999-12-31", "0000-02-29"].Pairwise (· ≤ ·) ∧
    FixedWidth.Date.dayNumber (⟨⟨9999, 12, 31⟩⟩ : Date .gregorian) = .ok 5373484 := by
  obtain ⟨hjalali, hgregorian, hjalaliList, hgregorianList, hwords, -⟩ := texts_sort_by_day
  have hlast : (⟨⟨99, 12, 29⟩⟩ : Date .jalali).Valid := by decide
  have hfirst : (⟨⟨100, 1, 1⟩⟩ : Date .jalali).Valid := by decide
  have hleap : (⟨⟨0, 2, 29⟩⟩ : Date .gregorian).Valid := by decide
  have hend : (⟨⟨9999, 12, 31⟩⟩ : Date .gregorian).Valid := by decide
  have hnext := hjalali _ _ hlast hfirst (by decide) (by decide)
  have hdays := hjalaliList [⟨⟨99, 12, 29⟩⟩, ⟨⟨100, 1, 1⟩⟩] (by decide)
  have hunsorted := hgregorianList [⟨⟨9999, 12, 31⟩⟩, ⟨⟨0, 2, 29⟩⟩] (by decide)
  refine ⟨hnext.1.1 (by decide), hnext.2.1.1 (by decide),
    (hgregorian _ _ hleap hend (by decide) (by decide)).1.1 (by decide),
    ⟨hdays.1.2 (by decide), hdays.2.2 (by decide)⟩, fun hsorted => ?_, hwords _ _ hend⟩
  exact absurd (hunsorted.1 hsorted) (by decide)

/-- Outside these years the texts are ordered otherwise: a fifth digit moves the fields, and a sign turns
the order of the years around. -/
example : (⟨⟨10000, 1, 1⟩⟩ : Date .gregorian).text < (⟨⟨9999, 12, 31⟩⟩ : Date .gregorian).text ∧
    (⟨⟨-1, 1, 1⟩⟩ : Date .jalali).text < (⟨⟨-2, 1, 1⟩⟩ : Date .jalali).text := by decide

end PersianCalendar
