import PersianCalendar.Date.Written
import PersianCalendar.Proofs.Outcome
import PersianCalendar.Proofs.Reading.Tagged

/-!
# Reading what is written

A text whose cleaned form is a date in figures is read as this date (`dateOfChars_of_clean`), and with
the tag of the calendar in front of it as the date of this calendar (`readTagged_of_clean`).  The one
exception is a year whose absolute value does not fit in 32 bits: it is refused by its digits
(`dateOfChars_of_clean_of_gt`, `readTagged_of_clean_of_gt`).
-/

namespace PersianCalendar

open Outcome

variable {c : Calendar} {d : Date c}

/-! ### The characters of a date -/

lemma Calendar.isSeparator_separator (c : Calendar) : Reading.isSeparator c.separator := by
  cases c <;> decide

/-- The capital letter that names a calendar in front of a date. -/
def Calendar.tag : Calendar → Char
  | jalali => 'J'
  | gregorian => 'G'

lemma Calendar.plain_tag (c : Calendar) : Text.Plain c.tag ∧ Text.isQuote c.tag = false := by
  cases c <;> decide

lemma Date.Valid.month_nonneg (h : d.Valid) : 0 ≤ d.month :=
  h.2.holds.1.1

lemma Date.Valid.day_nonneg (h : d.Valid) : 0 ≤ d.day :=
  h.2.holds.2.1

lemma Date.Valid.day_le (h : d.Valid) : d.day ≤ 31 :=
  Int.le_trans h.2.2.2 (c.monthLength_le h.2.1)

namespace Date

lemma isDigit_or_of_mem_chars {x : Char} (h : x ∈ d.chars) : x.isDigit ∨ x ∈ ['-', '/'] := by
  have hnumber : ∀ {width : Nat} {k : Int}, x ∈ Decimal.chars width k →
      x.isDigit ∨ x ∈ ['-', '/'] := by
    intro width k hx
    rcases Decimal.isDigit_or_eq_of_mem_chars hx with hdigit | rfl
    · exact Or.inl hdigit
    · exact Or.inr List.mem_cons_self
  have hseparator : c.separator ∈ ['-', '/'] := by
    cases c <;> decide
  simp only [chars, List.mem_append, List.mem_cons] at h
  rcases h with h | rfl | h | rfl | h
  · exact hnumber h
  · exact Or.inr hseparator
  · exact hnumber h
  · exact Or.inr hseparator
  · exact hnumber h

/-- Nothing in a written date is changed by cleaning. -/
lemma plain_of_mem_chars {x : Char} (h : x ∈ d.chars) : Text.Plain x ∧ Text.isQuote x = false := by
  rcases isDigit_or_of_mem_chars h with hdigit | hmem
  · exact Text.plain_of_isDigit hdigit
  · simp only [List.mem_cons, List.not_mem_nil, or_false] at hmem
    rcases hmem with rfl | rfl <;> decide

@[simp] lemma clean_chars (d : Date c) : Text.clean d.chars = d.chars :=
  Text.clean_eq_self fun _ h => plain_of_mem_chars h

/-- The fields of a written date, the year without its sign. -/
def written (d : Date c) : Reading.Triple (List Char) where
  first := Decimal.padded (if d.year < 0 then 3 else 4) d.year.natAbs
  middle := Decimal.padded 2 d.month.toNat
  last := Decimal.padded 2 d.day.toNat

/-- The numbers of these fields. -/
def magnitudes (d : Date c) : Reading.Triple Nat where
  first := d.year.natAbs
  middle := d.month.toNat
  last := d.day.toNat

/-- A date is written as its sign and its fields with separators between them. -/
lemma Valid.chars_eq (h : d.Valid) :
    d.chars = (if d.year < 0 then ['-'] else []) ++ (d.written.first ++ c.separator ::
      (d.written.middle ++ c.separator :: d.written.last)) := by
  rw [chars, Decimal.chars_of_nonneg 2 h.month_nonneg, Decimal.chars_of_nonneg 2 h.day_nonneg]
  by_cases hyear : d.year < 0
  · simp only [written, if_pos hyear, Decimal.chars_of_neg 4 hyear]
    rfl
  · have habs : d.year.natAbs = d.year.toNat := by omega
    simp only [written, if_neg hyear, Decimal.chars_of_nonneg 4 (Int.not_lt.1 hyear), habs]
    rfl

end Date

namespace Reading

/-! ### The fields that are read -/

lemma signedOfCleaned_of_digits {x cs : List Char} (h : ∀ a ∈ x, a.isDigit) (h0 : x ≠ []) :
    signedOfCleaned (x ++ cs) = (numbers (x ++ cs)).map (Signed.mk false) := by
  cases x with
  | nil => exact absurd rfl h0
  | cons a x =>
    rw [List.cons_append, signedOfCleaned]
    · rintro ⟨⟩
    · -- a minus sign is no digit
      rintro rest ⟨⟩
      exact absurd (h '-' List.mem_cons_self) (by decide)

/-- The sign of a written date is read apart from its fields. -/
lemma signedOfCleaned_chars (h : d.Valid) :
    signedOfCleaned d.chars =
      (d.written.traverse numeral).map (Signed.mk (decide (d.year < 0))) := by
  have hnumbers : numbers (d.written.first ++ c.separator ::
      (d.written.middle ++ c.separator :: d.written.last)) = d.written.traverse numeral :=
    numbers_padded c.isSeparator_separator c.isSeparator_separator
  rw [h.chars_eq, ← hnumbers]
  by_cases hyear : d.year < 0
  · simp only [hyear, if_true, decide_true]
    rfl
  · simp only [hyear, if_false, decide_false, List.nil_append]
    exact signedOfCleaned_of_digits (fun _ h => Decimal.isDigit_of_mem_padded h)
      (Decimal.padded_ne_nil _ _)

lemma traverse_written (h : d.Valid) (hyear : d.year.natAbs ≤ 2147483647) :
    d.written.traverse numeral = .ok d.magnitudes := by
  obtain ⟨hmonth, hday⟩ := h.2.holds
  simp at hmonth hday
  exact traverse_eq_ok_iff.2 ⟨numeral_padded hyear,
    numeral_padded (by omega : d.month.toNat ≤ 2147483647),
    numeral_padded (by omega : d.day.toNat ≤ 2147483647)⟩

lemma traverse_written_of_gt (hyear : 2147483647 < d.year.natAbs) :
    d.written.traverse numeral = .error (.notANumeral (String.ofList d.written.first)) :=
  traverse_eq_error_iff.2 (Or.inl (numeral_padded_of_gt hyear))

/-- The sign and the numbers of a written date mean its fields. -/
lemma toYmd_magnitudes (h : d.Valid) :
    Signed.toYmd ⟨decide (d.year < 0), d.magnitudes⟩ = d.toYmd := by
  have hyear : (if decide (d.year < 0) = true then -(d.year.natAbs : Int) else d.year.natAbs) =
      d.year := by
    by_cases hneg : d.year < 0
    · simp only [hneg, decide_true, if_true]
      omega
    · simp only [hneg, decide_false, Bool.false_eq_true, if_false]
      omega
  simp only [Signed.toYmd, Triple.toYmd, Date.magnitudes, hyear,
    Int.toNat_of_nonneg h.month_nonneg, Int.toNat_of_nonneg h.day_nonneg]

section

variable {cs : List Char} (h : d.Valid) (hclean : Text.clean cs = d.chars)
include h hclean

lemma signedFields_of_clean (hyear : d.year.natAbs ≤ 2147483647) :
    signedFields cs = .ok ⟨decide (d.year < 0), d.magnitudes⟩ := by
  rw [signedFields, hclean, signedOfCleaned_chars h, traverse_written h hyear]
  rfl

lemma signedFields_of_clean_of_gt (hyear : 2147483647 < d.year.natAbs) :
    signedFields cs = .error (.notANumeral (String.ofList d.written.first)) := by
  rw [signedFields, hclean, signedOfCleaned_chars h, traverse_written_of_gt hyear]
  rfl

/-! ### Dates of a known calendar -/

lemma dateOfChars_of_clean (hyear : d.year.natAbs ≤ 2147483647) : dateOfChars c cs = .ok d := by
  have hfields : yearFirst cs = .ok d.toYmd :=
    map_eq_ok.2 ⟨_, signedFields_of_clean h hclean hyear, toYmd_magnitudes h⟩
  exact dateOfChars_eq_ok_iff.2 ⟨_, hfields, Date.ofYmd_eq_ok_iff.2 ⟨h, rfl⟩⟩

lemma dateOfChars_of_clean_of_gt (hyear : 2147483647 < d.year.natAbs) :
    dateOfChars c cs = .error (.notANumeral (String.ofList d.written.first)) := by
  simp only [dateOfChars, yearFirst, signedFields_of_clean_of_gt h hclean hyear]
  rfl

end

/-! ### Dates with a tag -/

section

variable {s : String} (h : d.Valid) (hclean : Text.clean s.toList = c.tag :: ':' :: d.chars)
include h hclean

omit h in
lemma taggedFields_of_tag :
    taggedFields s.toList = (signedFields d.chars).map fun fields => (c, fields) := by
  refine taggedFields_of_hasTag ⟨[c.tag], ⟨[], c.tag, [], rfl, ?_, ?_, ?_⟩, hclean⟩
  · cases c <;> decide
  · exact List.forall_mem_nil _
  · exact List.forall_mem_nil _

lemma readTagged_of_clean (hyear : d.year.natAbs ≤ 2147483647) :
    AnyDate.readTagged s = .ok ⟨c, d⟩ := by
  have hfields : taggedFields s.toList = .ok (c, ⟨decide (d.year < 0), d.magnitudes⟩) := by
    rw [taggedFields_of_tag hclean, signedFields_of_clean h d.clean_chars hyear]
    rfl
  have hdate : AnyDate.ofYmd c d.toYmd = .ok ⟨c, d⟩ := AnyDate.ofYmd_ymd (d := ⟨c, d⟩) h
  refine bind_eq_ok.2 ⟨_, hfields, mapError_eq_ok.2 ?_⟩
  rw [toYmd_magnitudes h, hdate]

lemma readTagged_of_clean_of_gt (hyear : 2147483647 < d.year.natAbs) :
    AnyDate.readTagged s = .error (.notANumeral (String.ofList d.written.first)) := by
  simp only [AnyDate.readTagged, taggedFields_of_tag hclean,
    signedFields_of_clean_of_gt h d.clean_chars hyear]
  rfl

end

end Reading

end PersianCalendar
