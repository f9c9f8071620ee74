import PersianCalendar.Proofs.Persian.Display
import PersianCalendar.Proofs.Reading.RoundTrip
import PersianCalendar.Proofs.Text.NormalForm

/-!
# Timestamps shown in Persian

A timestamp is a written date and, behind a `T` or a blank, any text.  Whatever that text is, cleaning
the timestamp leaves the date in front as it is and ends it where it ended (`exists_clean_text_append`).
So the date that is shown is the one that was written (`ofTimestamp_text_append`), in its own calendar
or converted, as its year says.
-/

namespace PersianCalendar

open Outcome Reading

namespace Persian

variable {c : Calendar} {d : Date c} {s w : String} {rest cs : List Char}

/-! ### The end of the date -/

/-- What ends a date is no digit of another script and no mark. -/
lemma plain_cons_of_endsDate {x : Char} (h : endsDate x) (cs : List Char) :
    Text.plain (x :: cs) = x :: Text.plain cs := by
  rcases endsDate_iff.1 h with rfl | hblank
  · exact Text.plain_cons_of_plain (by decide) cs
  · rw [Text.plain_cons, Text.western_of_isBlank hblank, Text.isMark_of_isBlank hblank]
    rfl

lemma endsDate_of_head_plain (h : ∀ x, cs.head? = some x → endsDate x) :
    ∀ x, (Text.plain cs).head? = some x → endsDate x := by
  cases cs with
  | nil => nofun
  | cons y cs =>
    have hy := h y rfl
    rw [plain_cons_of_endsDate hy]
    rintro x ⟨⟩
    exact hy

/-- Cleaning leaves a written date in front of a text alone and does not join it to what follows. -/
lemma exists_clean_text_append (d : Date c) (hw : ∀ x, w.toList.head? = some x → endsDate x) :
    ∃ rest, Text.clean (d.text ++ w).toList = d.chars ++ rest ∧
      ∀ x, rest.head? = some x → endsDate x := by
  have hne : d.chars ≠ [] := List.append_ne_nil_of_right_ne_nil _ (List.cons_ne_nil _ _)
  obtain ⟨rest, hrest, hclean⟩ :=
    Text.exists_clean_append (fun x hx => d.plain_of_mem_chars hx) hne w.toList
  refine ⟨rest, by rw [String.toList_append, d.toList_text, hclean], fun x hx => ?_⟩
  obtain ⟨tail, htail⟩ := hrest
  refine endsDate_of_head_plain hw x ?_
  rw [← htail, List.head?_append, hx]
  rfl

/-! ### The calendar of the fields -/

lemma jalaliOfFields_of_lt {d : Date .jalali} (h : d.Valid) (hyear : d.year < gregorianThreshold) :
    jalaliOfFields d.toYmd = .ok d := by
  rw [jalaliOfFields, if_pos hyear]
  exact Date.ofYmd_eq_ok_iff.2 ⟨h, rfl⟩

lemma jalaliOfFields_of_le {g : Date .gregorian} (h : g.Valid) (hyear : gregorianThreshold ≤ g.year) :
    jalaliOfFields g.toYmd = g.convert .jalali := by
  rw [jalaliOfFields, if_neg (Int.not_lt.2 hyear), Date.ofYmd_eq_ok_iff.2 ⟨h, rfl⟩]
  rfl

/-! ### The date in front -/

lemma ofTimestamp_of_clean (h : d.Valid) (hyear : d.year.natAbs ≤ 2147483647)
    (hclean : Text.clean s.toList = d.chars ++ rest)
    (hrest : ∀ x, rest.head? = some x → endsDate x) :
    ofTimestamp s = (ReadError.ofDate (jalaliOfFields d.toYmd)).map shortForm := by
  have hchars : ∀ x ∈ d.chars, x.isDigit ∨ isSeparator x := by
    refine fun x hx => (Date.isDigit_or_of_mem_chars hx).imp_right fun hmem => ?_
    rcases List.mem_pair.1 hmem with rfl | rfl <;> decide
  have hfields : yearFirst (datePart s.toList) = .ok d.toYmd := by
    rw [yearFirst_datePart hclean hchars hrest, signedOfCleaned_chars h, traverse_written h hyear]
    exact congrArg Except.ok (toYmd_magnitudes h)
  rw [ofTimestamp, jalaliOfTimestamp, hfields]
  rfl

lemma ofTimestamp_text_append (h : d.Valid) (hyear : d.year.natAbs ≤ 2147483647)
    (hw : ∀ x, w.toList.head? = some x → endsDate x) :
    ofTimestamp (d.text ++ w) = (ReadError.ofDate (jalaliOfFields d.toYmd)).map shortForm := by
  obtain ⟨rest, hclean, hrest⟩ := exists_clean_text_append d hw
  exact ofTimestamp_of_clean h hyear hclean hrest

/-- A timestamp is shown as the date with which it begins, whatever comes behind the `T` or the blank
that ends this date.  A Jalali date is shown in its year, a Gregorian one as the Jalali date of the same
day or, if there is none, refused for that reason. -/
theorem timestamps_show_their_date (w : String)
    (hw : ∀ x, w.toList.head? = some x → x = 'T' ∨ Text.isBlank x) :
    (∀ d : Date .jalali, d.Valid → d.year < gregorianThreshold →
      ofTimestamp (d.text ++ w) = .ok (shortForm d)) ∧
    (∀ g : Date .gregorian, g.Valid → gregorianThreshold ≤ g.year →
      (∀ j, g.convert .jalali = .ok j → ofTimestamp (g.text ++ w) = .ok (shortForm j)) ∧
      ∀ e, g.convert .jalali = .error e → ofTimestamp (g.text ++ w) = .error (.date e)) ∧
    ∀ s, FixedWidth.Reading.ofTimestamp s = FixedWidth.Checked.ofExcept (ofTimestamp s) := by
  have hends : ∀ x, w.toList.head? = some x → endsDate x := fun x hx => endsDate_iff.2 (hw x hx)
  refine ⟨fun d h hyear => ?_, fun g h hyear => ?_, FixedWidth.Reading.ofTimestamp_eq⟩
  · rw [ofTimestamp_text_append h (Date.natAbs_year_le h) hends, jalaliOfFields_of_lt h hyear]
    rfl
  · have hsecond : g.year ≠ -2147483648 := by
      intro heq
      rw [heq] at hyear
      exact absurd hyear (by decide)
    rw [ofTimestamp_text_append h ((Date.natAbs_year_le_iff h).2 hsecond) hends,
      jalaliOfFields_of_le h hyear]
    constructor
    · intro j hj
      rw [hj]
      rfl
    · intro e he
      rw [he]
      rfl

/-- Behind the `T` of these timestamps stand marks, quotes, digits and another date.  The first Jalali
date is the earliest one, the Gregorian dates are the first one that is converted, a leap day and the
last one of 32 bits, which has no Jalali date. -/
theorem timestamps_show_their_date_marked :
    ofTimestamp ("-061/01/01" ++ "T\"۱۲:00' 2024-01-01 \u200f\"") = .ok "-۰۶۱/۰۱/۰۱" ∧
    ofTimestamp ("1700-01-01" ++ "T\"۱۲:00' 2024-01-01 \u200f\"") = .ok "۱۰۷۸/۱۰/۱۱" ∧
    ofTimestamp ("2025-03-20" ++ "\u3000'/٤'") = .ok "۱۴۰۳/۱۲/۳۰" ∧
    ofTimestamp ("2147483647-12-31" ++ "\u3000'/٤'") =
      .error (.date (.unsupportedYear 2147483026)) := by
  have hletter := timestamps_show_their_date "T\"۱۲:00' 2024-01-01 \u200f\""
    (by rintro x ⟨⟩; exact Or.inl rfl)
  have hblank := timestamps_show_their_date "\u3000'/٤'" (by rintro x ⟨⟩; exact Or.inr rfl)
  have hfirst := hletter.1 ⟨⟨-61, 1, 1⟩⟩ (by decide) (by decide)
  have hconverted :=
    (hletter.2.1 ⟨⟨1700, 1, 1⟩⟩ (by decide) (by decide)).1 ⟨⟨1078, 10, 11⟩⟩ (by decide)
  have hleap := (hblank.2.1 ⟨⟨2025, 3, 20⟩⟩ (by decide) (by decide)).1 ⟨⟨1403, 12, 30⟩⟩ (by decide)
  have hlast := (hblank.2.1 ⟨⟨2147483647, 12, 31⟩⟩ (by decide) (by decide)).2 _ rfl
  exact ⟨hfirst, hconverted, hleap, hlast⟩

end Persian

end PersianCalendar
