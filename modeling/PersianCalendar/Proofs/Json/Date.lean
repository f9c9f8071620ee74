import PersianCalendar.Json.Date
import PersianCalendar.Proofs.Date.Walk
import PersianCalendar.Proofs.Json.Settles
import PersianCalendar.Proofs.Json.Standard
import PersianCalendar.Proofs.Reading.Grammar
import PersianCalendar.Proofs.Reading.RoundTrip

/-!
# JSON settles once it is written again

Many JSON values are read as one date: its text may be spelled in many ways, and a date with its
calendar may stand in an object with its fields in any order.  One of them is written.  Its text is read
as the same date, so a second reading and writing changes nothing (`json_settles`), whatever backend does
this.  For a date this hangs on its year: a year that was read has 32 bits without its sign
(`natAbs_year_le_of_read`), and only then is its text read at all.
-/

namespace PersianCalendar

open Outcome

/-! ### Dates of one calendar -/

/-- The year of a text is a number of 32 bits, and a sign in front of it changes nothing. -/
lemma Reading.DateText.natAbs_year_le {cs : List Char} {f : Ymd} (h : DateText cs f) :
    f.year.natAbs ≤ 2147483647 := by
  cases h with
  | positive hnumbers =>
    obtain ⟨fields, -, hyear, -⟩ := hnumbers
    rw [Int.natAbs_natCast]
    exact hyear.1
  | negative hnumbers =>
    obtain ⟨fields, -, hyear, -⟩ := hnumbers
    rw [Int.natAbs_neg, Int.natAbs_natCast]
    exact hyear.1

namespace Date

variable {c : Calendar} {d : Date c} {j : Json} {s : String}

lemma natAbs_year_le_of_read (h : read c s = .ok d) : d.year.natAbs ≤ 2147483647 := by
  obtain ⟨f, hf, hd⟩ := Reading.dateOfChars_eq_ok_iff.1 h
  have hyear : d.year = f.year := congrArg Ymd.year (ofYmd_eq_ok_iff.1 hd).2
  rw [hyear]
  exact (Reading.signedOfCleaned_eq_ok_iff.1 hf).natAbs_year_le

/-- A date that was read from a text is read from the text that is written for it. -/
lemma read_text_of_read (h : read c s = .ok d) : read c d.text = .ok d :=
  Reading.dateOfChars_of_clean (valid_of_read h) (by simp) (natAbs_year_le_of_read h)

/-- A date is read from a string with its text. -/
lemma ofJson_eq_ok_iff : ofJson c j = .ok d ↔ ∃ s, read c s = .ok d ∧ j = .string s := by
  constructor
  · intro h
    cases j with
    | string s =>
      rw [ofJson, mapError_eq_ok] at h
      exact ⟨s, h, rfl⟩
    | _ => simp only [ofJson, reduceCtorEq] at h
  · rintro ⟨s, hs, rfl⟩
    simp [ofJson, hs]

lemma keepsScalars_form (c : Calendar) : (form c).KeepsScalars where
  scalar {d} _ := by
    rw [toJson_form]
    exact .string d.text
  ofJson_toJson := by
    rintro d ⟨j, h⟩
    rw [ofJson_form] at h
    obtain ⟨s, hs, -⟩ := ofJson_eq_ok_iff.1 h
    rw [toJson_form, ofJson_form]
    exact ofJson_eq_ok_iff.2 ⟨d.text, read_text_of_read hs, rfl⟩

lemma valid_of_accepts (h : (form c).Accepts d) : d.Valid := by
  obtain ⟨j, h⟩ := h
  obtain ⟨s, hs, -⟩ := ofJson_eq_ok_iff.1 h
  exact valid_of_read hs

end Date

/-! ### Calendars, dates with their calendar and starts of years -/

variable {B : Json.Backend}

namespace Calendar

lemma mem_all (c : Calendar) : c ∈ all := by
  cases c <;> decide

lemma nodup_keys : (all.map key).Nodup := by decide

lemma settles_form (hB : B.Lawful) : B.Settles (form B) :=
  hB.settles_of_keepsScalars (hB.keepsScalars_choice nodup_keys mem_all)

end Calendar

namespace AnyDate

lemma settles_form (hB : B.Lawful) : B.Settles (form B) := by
  have htagged : B.Settles (B.tagged "calendar" "date" Calendar.all Calendar.key Date.form) :=
    hB.settles_tagged (by decide) Calendar.nodup_keys Calendar.mem_all Date.keepsScalars_form
  exact htagged.along fun _ => rfl

lemma valid_of_accepts (hB : B.Lawful) {d : AnyDate} (h : (form B).Accepts d) : d.Valid := by
  obtain ⟨j, h⟩ := h
  obtain ⟨⟨c, e⟩, he, rfl⟩ := map_eq_ok.1 h
  exact Date.valid_of_accepts (hB.accepts_of_tagged ⟨j, he⟩)

end AnyDate

namespace Jalali.YearStart

lemma settles_form (hB : B.Lawful) : B.Settles (form B) := by
  have hnames : (fields B).names.Nodup := by
    simp [fields, Json.Fields.names]
  have hfields : (fields B).KeepScalars :=
    ⟨hB.keepsScalars_int32, hB.keepsScalars_int32, hB.keepsScalars_bool, trivial⟩
  exact (hB.settles_record hnames hfields).along fun _ => rfl

end Jalali.YearStart

/-! ### All of them -/

/-- Whatever JSON value a backend reads that keeps the laws, be it an object or an array, with its
fields in any order and with other fields besides, and with the text of a date in any spelling: the text
that is written for the result is read as the same result, for which the same text is written again.
Every date that is read is built again from its own fields. -/
theorem json_settles (B : Json.Backend) (hB : B.Lawful) :
    B.Settles (Calendar.form B) ∧
    (∀ c, B.Settles (Date.form c)) ∧
    B.Settles (AnyDate.form B) ∧
    B.Settles (Jalali.YearStart.form B) ∧
    (∀ c j d, (Date.form c).ofJson j = .ok d → Date.ofYmd c d.toYmd = .ok d) ∧
    ∀ j d, (AnyDate.form B).ofJson j = .ok d → AnyDate.ofYmd d.calendar d.ymd = .ok d := by
  refine ⟨Calendar.settles_form hB, ?_, AnyDate.settles_form hB, Jalali.YearStart.settles_form hB,
    ?_, ?_⟩
  · intro c
    exact hB.settles_of_keepsScalars (Date.keepsScalars_form c)
  · intro c j d h
    exact Date.ofYmd_eq_ok_iff.2 ⟨Date.valid_of_accepts ⟨j, h⟩, rfl⟩
  · intro j d h
    exact AnyDate.ofYmd_ymd (AnyDate.valid_of_accepts hB ⟨j, h⟩)

/-- With the reader and writer of this library: a date in an object with its fields the other way round
and one more between them, with its text in two scripts and between quotes, and the start of a year in
an array. -/
theorem json_settles_reordered :
    Json.Backend.standard.Lawful ∧
    (AnyDate.form .standard).ofJson (.object [("date", .string " '-۵/ 1.۰۲' "), ("zone", .null),
        ("calendar", .string "gregorian")]) = .ok ⟨.gregorian, ⟨⟨-5, 1, 2⟩⟩⟩ ∧
    Json.Backend.standard.write (AnyDate.form .standard) ⟨.gregorian, ⟨⟨-5, 1, 2⟩⟩⟩ =
      "\x7b\"calendar\":\"gregorian\",\"date\":\"-005-01-02\"\x7d" ∧
    Json.Backend.standard.read (AnyDate.form .standard)
        "\x7b\"calendar\":\"gregorian\",\"date\":\"-005-01-02\"\x7d" =
      .ok ⟨.gregorian, ⟨⟨-5, 1, 2⟩⟩⟩ ∧
    AnyDate.ofYmd .gregorian ⟨-5, 1, 2⟩ = .ok ⟨.gregorian, ⟨⟨-5, 1, 2⟩⟩⟩ ∧
    (Jalali.YearStart.form .standard).ofJson (.array [.integer 2024, .integer (-3), .bool true]) =
      .ok ⟨2024, -3, true⟩ ∧
    Json.Backend.standard.read (Jalali.YearStart.form .standard)
        "\x7b\"gregorian_year\":2024,\"march_day\":-3,\"is_leap\":true\x7d" =
      .ok ⟨2024, -3, true⟩ := by
  obtain ⟨-, -, hdates, hstarts, -, hvalid⟩ := json_settles .standard Json.lawful_standard
  have hdate : (AnyDate.form .standard).ofJson (.object [("date", .string " '-۵/ 1.۰۲' "),
      ("zone", .null), ("calendar", .string "gregorian")]) =
        .ok ⟨.gregorian, ⟨⟨-5, 1, 2⟩⟩⟩ := rfl
  have hwritten : Json.Backend.standard.write (AnyDate.form .standard) ⟨.gregorian, ⟨⟨-5, 1, 2⟩⟩⟩ =
      "\x7b\"calendar\":\"gregorian\",\"date\":\"-005-01-02\"\x7d" := rfl
  have hread := hdates _ _ hdate
  rw [hwritten] at hread
  have hstart : (Jalali.YearStart.form .standard).ofJson
      (.array [.integer 2024, .integer (-3), .bool true]) = .ok ⟨2024, -3, true⟩ := rfl
  have hstartWritten : Json.Backend.standard.write (Jalali.YearStart.form .standard) ⟨2024, -3, true⟩ =
      "\x7b\"gregorian_year\":2024,\"march_day\":-3,\"is_leap\":true\x7d" := rfl
  have hstartRead := hstarts _ _ hstart
  rw [hstartWritten] at hstartRead
  exact ⟨Json.lawful_standard, hdate, hwritten, hread, hvalid _ _ hdate, hstart, hstartRead⟩

end PersianCalendar
