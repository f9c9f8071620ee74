import PersianCalendar.Json.Date
import PersianCalendar.Persian.Written
import PersianCalendar.Proofs.Reading.Written

/-!
# Dates read back from their texts

Every text in which a date is written is read as this date: the figures, with ASCII or with Persian
digits, alone, behind the tag of the calendar, or as a JSON string.  Jalali years have four digits at
most, so nothing is in the way (`jalali_texts_read_back`).  A Gregorian year is read by its absolute
value, which has 32 bits for all years but the first (`gregorian_texts_read_back`).
-/

namespace PersianCalendar

variable {c : Calendar}

namespace Date

/-! ### The forms of a date -/

lemma clean_tagged (d : Date c) : Text.clean (c.tag :: ':' :: d.chars) = c.tag :: ':' :: d.chars := by
  refine Text.clean_eq_self fun x hx => ?_
  rcases List.mem_cons.1 hx with rfl | hx
  · exact c.plain_tag
  rcases List.mem_cons.1 hx with rfl | hx
  · decide
  · exact plain_of_mem_chars hx

lemma natAbs_year_le {d : Date .jalali} (h : d.Valid) : d.year.natAbs ≤ 2147483647 := by
  obtain ⟨hlow, hhigh⟩ : -61 ≤ d.year ∧ d.year ≤ 3177 := h.1
  omega

lemma natAbs_year_le_iff {d : Date .gregorian} (h : d.Valid) :
    d.year.natAbs ≤ 2147483647 ↔ d.year ≠ -2147483648 := by
  obtain ⟨hlow, hhigh⟩ : -2147483648 ≤ d.year ∧ d.year ≤ 2147483647 := h.1
  omega

end Date

/-! ### Gregorian dates -/

/-- A Gregorian date is read back from its text, from its text behind the tag `G:`, and from its JSON
string, unless it lies in the first year of 32 bits.  The number of that year without its sign is too
great to be read. -/
theorem gregorian_texts_read_back (d : Date .gregorian) (h : d.Valid) :
    (d.year ≠ -2147483648 →
      Date.read .gregorian d.text = .ok d ∧
      AnyDate.readTagged ("G:" ++ d.text) = .ok ⟨.gregorian, d⟩ ∧
      Date.ofJson .gregorian d.toJson = .ok d) ∧
    (d.year = -2147483648 →
      Date.read .gregorian d.text = .error (.notANumeral "2147483648") ∧
      AnyDate.readTagged ("G:" ++ d.text) = .error (.notANumeral "2147483648") ∧
      Date.ofJson .gregorian d.toJson = .error (.text (.notANumeral "2147483648"))) := by
  have hclean : Text.clean d.text.toList = d.chars := by
    simp
  have htagged : Text.clean ("G:" ++ d.text).toList = 'G' :: ':' :: d.chars := by
    rw [String.toList_append, d.toList_text]
    exact d.clean_tagged
  constructor
  · intro hyear
    have hle := (Date.natAbs_year_le_iff h).2 hyear
    have hread : Date.read .gregorian d.text = .ok d := Reading.dateOfChars_of_clean h hclean hle
    refine ⟨hread, Reading.readTagged_of_clean h htagged hle, ?_⟩
    rw [Date.toJson, Date.ofJson, hread]
    rfl
  · intro hyear
    have hgt : 2147483647 < d.year.natAbs := by
      rw [hyear]
      decide
    have hdigits : String.ofList d.written.first = "2147483648" := by
      rw [Date.written, hyear]
      rfl
    have hread := Reading.dateOfChars_of_clean_of_gt h hclean hgt
    have hreadTagged := Reading.readTagged_of_clean_of_gt h htagged hgt
    rw [hdigits] at hread hreadTagged
    refine ⟨hread, hreadTagged, ?_⟩
    rw [Date.toJson, Date.ofJson, Date.read, hread]
    rfl

/-- The second year of 32 bits, the last one, and the first, which is not read. -/
theorem gregorian_texts_read_back_ends :
    AnyDate.readTagged "G:-2147483647-02-28" = .ok ⟨.gregorian, ⟨⟨-2147483647, 2, 28⟩⟩⟩ ∧
    Date.read .gregorian "2147483647-12-31" = .ok ⟨⟨2147483647, 12, 31⟩⟩ ∧
    Date.read .gregorian "-2147483648-01-01" = .error (.notANumeral "2147483648") := by
  have hsecond := (gregorian_texts_read_back ⟨⟨-2147483647, 2, 28⟩⟩ (by decide)).1 (by decide)
  have hlast := (gregorian_texts_read_back ⟨⟨2147483647, 12, 31⟩⟩ (by decide)).1 (by decide)
  have hfirst := (gregorian_texts_read_back ⟨⟨-2147483648, 1, 1⟩⟩ (by decide)).2 rfl
  exact ⟨hsecond.2.1, hlast.1, hfirst.1⟩

/-- The first day of the first year of 32 bits is a date that is not read back from its text. -/
theorem gregorian_first_day_not_read_back :
    Date.ofYmd .gregorian ⟨-2147483648, 1, 1⟩ = .ok ⟨⟨-2147483648, 1, 1⟩⟩ ∧
    (⟨⟨-2147483648, 1, 1⟩⟩ : Date .gregorian).text = "-2147483648-01-01" ∧
    ∀ d, Date.read .gregorian "-2147483648-01-01" ≠ .ok d := by
  have h : (⟨⟨-2147483648, 1, 1⟩⟩ : Date .gregorian).Valid := by decide
  refine ⟨Date.ofYmd_eq_ok_iff.2 ⟨h, rfl⟩, rfl, ?_⟩
  intro d hd
  cases hd

/-! ### Jalali dates -/

/-- A Jalali date is read back from its text, in ASCII or in Persian digits and alone, between quotes or
behind the tag `J:`, and from its JSON string. -/
theorem jalali_texts_read_back (d : Date .jalali) (h : d.Valid) :
    Date.read .jalali d.text = .ok d ∧
    Date.read .jalali (Persian.shortForm d) = .ok d ∧
    Date.read .jalali ("\"" ++ d.text ++ "\"") = .ok d ∧
    Date.ofJson .jalali d.toJson = .ok d ∧
    AnyDate.readTagged ("J:" ++ d.text) = .ok ⟨.jalali, d⟩ ∧
    AnyDate.readTagged ("J:" ++ Persian.shortForm d) = .ok ⟨.jalali, d⟩ := by
  have hyear := Date.natAbs_year_le h
  have hread : Date.read .jalali d.text = .ok d :=
    Reading.dateOfChars_of_clean h (by simp) hyear
  refine ⟨hread, ?_, ?_, ?_, ?_, ?_⟩
  · exact Reading.dateOfChars_of_clean h (by simp) hyear
  · refine Reading.dateOfChars_of_clean h ?_ hyear
    rw [String.toList_append, String.toList_append, d.toList_text]
    exact Text.clean_quoted fun _ hx => Date.plain_of_mem_chars hx
  · rw [Date.toJson, Date.ofJson, hread]
    rfl
  · refine Reading.readTagged_of_clean h ?_ hyear
    rw [String.toList_append, d.toList_text]
    exact d.clean_tagged
  · refine Reading.readTagged_of_clean h ?_ hyear
    -- the tag is no digit, so the whole text is one with Persian digits
    have hpersian : ("J:" ++ Persian.shortForm d).toList =
        ('J' :: ':' :: d.chars).map Digit.persian := by
      rw [String.toList_append, Persian.toList_shortForm]
      rfl
    rw [hpersian, Text.clean_map_persian]
    exact d.clean_tagged

/-- The first day of the table, in a negative year, and a leap day. -/
theorem jalali_texts_read_back_ends :
    Date.read .jalali "-061/01/01" = .ok ⟨⟨-61, 1, 1⟩⟩ ∧
    Date.read .jalali "۱۴۰۳/۱۲/۳۰" = .ok ⟨⟨1403, 12, 30⟩⟩ ∧
    Date.read .jalali "\"0000/01/01\"" = .ok ⟨⟨0, 1, 1⟩⟩ ∧
    AnyDate.readTagged "J:-۰۶۱/۰۱/۰۱" = .ok ⟨.jalali, ⟨⟨-61, 1, 1⟩⟩⟩ := by
  have hfirst := jalali_texts_read_back ⟨⟨-61, 1, 1⟩⟩ (by decide)
  have hzero := jalali_texts_read_back ⟨⟨0, 1, 1⟩⟩ (by decide)
  have hleap := jalali_texts_read_back ⟨⟨1403, 12, 30⟩⟩ (by decide)
  exact ⟨hfirst.1, hleap.2.1, hzero.2.2.1, hfirst.2.2.2.2.2⟩

end PersianCalendar
