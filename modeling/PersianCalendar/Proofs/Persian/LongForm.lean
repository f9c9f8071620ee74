import PersianCalendar.Persian.Written
import PersianCalendar.Proofs.FixedWidth.Reading
import PersianCalendar.Proofs.Reading.Written

/-!
# What the long form says

The numbers and the name of a long form have no blanks in them, so they are its parts between the
blanks (`splitOnP_longPlainChars`).  Its Persian digits are those of the numbers, and turning them back
leaves the name of the month as it is (`map_western_longPlainChars`).  No two dates have one long form,
since the day, the name of the month and the year can be told from it (`longForm_inj`).
-/

namespace PersianCalendar

/-! ### Characters of a long form -/

/-- No ASCII digit is left where the digits are Persian. -/
lemma Digit.isDigit_persian (x : Char) : (persian x).isDigit = false := by
  rw [persian]
  split
  · rename_i hdigit
    obtain ⟨hlt, -⟩ := digitChar_of_isDigit hdigit
    have hall : ∀ n < 10, (persianDigits.getD n '۰').isDigit = false := by decide
    exact hall _ hlt
  · rename_i hdigit
    rwa [Bool.not_eq_true] at hdigit

lemma Decimal.plain_of_mem_chars {width : Nat} {k : Int} {x : Char} (h : x ∈ chars width k) :
    Text.Plain x := by
  rcases isDigit_or_eq_of_mem_chars h with hdigit | rfl
  · exact (Text.plain_of_isDigit hdigit).1
  · decide

namespace Persian

/-! ### The names of the months -/

section

variable {names : List String} {name : String} {m n : Int}

lemma mem_of_nameOf?_eq_some (h : nameOf? names m = some name) : name ∈ names := by
  rw [nameOf?] at h
  split at h
  · exact List.mem_of_getElem? h
  · cases h

lemma exists_nameOf?_eq_some (hm : 1 ≤ m ∧ m ≤ names.length) :
    ∃ name, nameOf? names m = some name := by
  have hlt : (m - 1).toNat < names.length := by omega
  rw [nameOf?, if_pos hm.1, List.getElem?_eq_getElem hlt]
  exact ⟨_, rfl⟩

/-- Where no name is given twice, a month is known by its name. -/
lemma eq_of_nameOf?_eq (hnames : names.Nodup) (hm : 1 ≤ m ∧ m ≤ names.length) (hn : 1 ≤ n)
    (h : nameOf? names m = nameOf? names n) : m = n := by
  rw [nameOf?, nameOf?, if_pos hm.1, if_pos hn] at h
  have hplace := (List.getElem?_inj (by omega) hnames).1 h
  omega

end

/-- No name has a blank, a mark or a digit of another script in it. -/
lemma plain_of_mem_name {name : String} {m : Int} (h : persianMonth? m = some name) :
    ∀ x ∈ name.toList, Text.Plain x := by
  have hall : persianMonths.all fun name => name.toList.all fun x => Text.Plain x := by decide
  intro x hx
  have hname := List.all_eq_true.1 hall name (mem_of_nameOf?_eq_some h)
  exact of_decide_eq_true (List.all_eq_true.1 hname x hx)

/-! ### The parts of a long form -/

variable {d e : Date .jalali} {name : String}

lemma exists_persianMonth? (h : d.Valid) : ∃ name, persianMonth? d.month = some name :=
  exists_nameOf?_eq_some h.2.1

lemma longPlainChars_eq (h : persianMonth? d.month = some name) :
    longPlainChars d =
      Decimal.chars 0 d.day ++ ' ' :: (name.toList ++ ' ' :: Decimal.chars 0 d.year) := by
  rw [longPlainChars, h, Option.getD_some]

lemma splitOnP_longPlainChars (h : persianMonth? d.month = some name) :
    (longPlainChars d).splitOnP Text.isBlank =
      [Decimal.chars 0 d.day, name.toList, Decimal.chars 0 d.year] := by
  rw [longPlainChars_eq h]
  exact Reading.splitOnP_eq_three_iff.2
    ⟨fun _ hx => (Decimal.plain_of_mem_chars hx).2.2,
      fun x hx => (plain_of_mem_name h x hx).2.2,
      fun _ hx => (Decimal.plain_of_mem_chars hx).2.2, ' ', ' ', rfl, rfl, rfl⟩

/-- Neither the numbers nor the names have digits of other scripts. -/
lemma map_western_longPlainChars (h : persianMonth? d.month = some name) :
    (longPlainChars d).map Digit.western = longPlainChars d := by
  refine (List.map_congr_left fun x hx => ?_).trans (List.map_id _)
  rw [longPlainChars_eq h] at hx
  simp only [List.mem_append, List.mem_cons] at hx
  rcases hx with hx | rfl | hx | rfl | hx
  · exact (Decimal.plain_of_mem_chars hx).1
  · rfl
  · exact (plain_of_mem_name h x hx).1
  · rfl
  · exact (Decimal.plain_of_mem_chars hx).1

lemma toWestern_longForm (h : persianMonth? d.month = some name) :
    Digit.toWestern (longForm d) = String.ofList (longPlainChars d) := by
  have hwestern : Digit.western ∘ Digit.persian = Digit.western := funext Digit.western_persian
  rw [Digit.toWestern, longForm, String.toList_ofList, List.map_map, hwestern,
    map_western_longPlainChars h]

lemma longForm_inj (hd : d.Valid) (he : e.Valid) (h : longForm d = longForm e) : d = e := by
  obtain ⟨name, hname⟩ := exists_persianMonth? hd
  obtain ⟨name', hname'⟩ := exists_persianMonth? he
  have hplain : longPlainChars d = longPlainChars e := by
    rw [← String.ofList_inj, ← toWestern_longForm hname, h, toWestern_longForm hname']
  have hparts := splitOnP_longPlainChars hname'
  rw [← hplain, splitOnP_longPlainChars hname] at hparts
  simp only [List.cons.injEq, and_true] at hparts
  obtain ⟨hday, hmonth, hyear⟩ := hparts
  have hsame : persianMonth? d.month = persianMonth? e.month := by
    rw [hname, hname', String.toList_inj.1 hmonth]
  have hnames : persianMonths.Nodup := by decide
  rw [Date.mk.injEq, Ymd.mk.injEq]
  exact ⟨Decimal.chars_injective 0 hyear, eq_of_nameOf?_eq hnames hd.2.1 he.2.1.1 hsame,
    Decimal.chars_injective 0 hday⟩

/-- Two dates with one long form are one date.  The long form has no ASCII digits; with its digits in
ASCII it is the day, the name of the month and the year, with a sign if it is negative, the numbers
without zeros in front and a blank on either side of the name. -/
theorem long_form_identifies_date :
    (∀ d e : Date .jalali, d.Valid → e.Valid → (longForm d = longForm e ↔ d = e)) ∧
    ∀ d : Date .jalali, d.Valid →
      FixedWidth.Reading.longForm d = .ok (longForm d) ∧
      (∀ x ∈ (longForm d).toList, x.isDigit = false) ∧
      ∃ name, persianMonth? d.month = some name ∧
        Digit.toWestern (longForm d) = toString d.day ++ " " ++ name ++ " " ++ toString d.year := by
  refine ⟨fun d e hd he => ⟨longForm_inj hd he, congrArg longForm⟩, fun d hd => ?_⟩
  obtain ⟨name, hname⟩ := exists_persianMonth? hd
  refine ⟨FixedWidth.Reading.longForm_eq_ok hd.2.1, ?_, name, hname, ?_⟩
  · intro x hx
    rw [longForm, String.toList_ofList] at hx
    obtain ⟨y, -, rfl⟩ := List.mem_map.1 hx
    exact Digit.isDigit_persian y
  · rw [toWestern_longForm hname, longPlainChars_eq hname, ← String.toList_inj]
    simp only [String.toList_ofList, String.toList_append, Decimal.toList_toString,
      List.append_assoc]
    rfl

/-- Day 1 of year 11 and day 11 of year 1 of the first month, and the first day of the first year. -/
theorem long_form_identifies_date_signed :
    longForm ⟨⟨11, 1, 1⟩⟩ ≠ longForm ⟨⟨1, 1, 11⟩⟩ ∧
    FixedWidth.Reading.longForm ⟨⟨-61, 1, 1⟩⟩ = .ok "۱ فروردین -۶۱" ∧
    (∀ x ∈ "۱ فروردین -۶۱".toList, x.isDigit = false) ∧
    Digit.toWestern "۱ فروردین -۶۱" = "1 فروردین -61" := by
  obtain ⟨hinj, hform⟩ := long_form_identifies_date
  have hsmall : (⟨⟨11, 1, 1⟩⟩ : Date .jalali).Valid := by decide
  have hgreat : (⟨⟨1, 1, 11⟩⟩ : Date .jalali).Valid := by decide
  obtain ⟨hwords, hdigits, name, hname, hwestern⟩ := hform ⟨⟨-61, 1, 1⟩⟩ (by decide)
  cases hname
  exact ⟨fun h => absurd ((hinj _ _ hsmall hgreat).1 h) (by decide), hwords, hdigits, hwestern⟩

end Persian

end PersianCalendar
