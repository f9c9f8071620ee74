import Mathlib.Data.List.Basic
import PersianCalendar.Persian.Display
import PersianCalendar.Proofs.Reading.Loose

/-!
# Typed dates shown in Persian

The date of a timestamp goes up to its first `T` or blank, and a typed date may have blanks around its
numbers.  Without such gaps a text that is read as a date is shown as this date (`yearFirst_datePart`).
With a gap the text is cut before the end of its last number, so less than three numbers are left and
the placeholder is shown (`refused_before_blank`).
-/

namespace PersianCalendar

open Outcome Reading

/-! ### Texts of numbers -/

namespace Reading

variable {cs : List Char} {fields : Triple (List Char)} {t : Triple Nat} {f : Ymd} {x : Char}

/-- In and around a number there are just digits and blanks. -/
lemma IsField.isDigit_or_of_mem {part field : List Char} {n : Nat} (h : IsField part field)
    (hn : Denotes field n) (hx : x ∈ part) : x.isDigit ∨ Text.isBlank x := by
  obtain ⟨-, before, after, hpart, hbefore, hafter⟩ := h.trims
  rw [hpart, List.mem_append, List.mem_append] at hx
  rcases hx with (hx | hx) | hx
  · exact Or.inr (hbefore x hx)
  · exact Or.inl (hn.isDigit_of_mem hx)
  · exact Or.inr (hafter x hx)

lemma HasNumbers.mem_cases (h : HasNumbers cs t) (hx : x ∈ cs) :
    (x.isDigit ∨ isSeparator x) ∨ Text.isBlank x := by
  obtain ⟨fields, ⟨s, u, a, b, c, rfl, hs, hu, ha, hb, hc⟩, hfirst, hmiddle, hlast⟩ := h
  have hnumber : ∀ {part field : List Char} {n : Nat}, IsField part field → Denotes field n →
      x ∈ part → (x.isDigit ∨ isSeparator x) ∨ Text.isBlank x :=
    fun hpart hn hmem => (hpart.isDigit_or_of_mem hn hmem).imp_left Or.inl
  simp only [List.mem_append, List.mem_cons] at hx
  rcases hx with hx | rfl | hx | rfl | hx
  · exact hnumber ha hfirst hx
  · exact Or.inl (Or.inr hs)
  · exact hnumber hb hmiddle hx
  · exact Or.inl (Or.inr hu)
  · exact hnumber hc hlast hx

/-- A date is typed with digits, separators and blanks. -/
lemma DateText.mem_cases (h : DateText cs f) (hx : x ∈ cs) :
    (x.isDigit ∨ isSeparator x) ∨ Text.isBlank x := by
  cases h with
  | positive h => exact h.mem_cases hx
  | negative h =>
    rcases List.mem_cons.1 hx with rfl | hx
    · exact Or.inl (Or.inr (by decide))
    · exact h.mem_cases hx

lemma plain_of_isDigit_or (h : x.isDigit ∨ isSeparator x) :
    Text.Plain x ∧ Text.isQuote x = false :=
  h.elim Text.plain_of_isDigit plain_of_isSeparator

/-! ### Texts cut at a blank -/

section

variable {before after : List Char} (hbefore : ∀ c ∈ before, Text.isBlank c = false)
    (hx : Text.isBlank x) (hend : ∀ c, (x :: after).getLast? = some c → Text.isBlank c = false)
include hbefore hx hend

/-- Three numbers that are cut at a blank are no three fields any more: either a separator is missing,
or there is nothing behind the last one. -/
lemma not_hasFields_before_blank (h : HasNumbers (before ++ x :: after) t) :
    ¬HasFields before fields := by
  rintro ⟨s, u, a, b, c, rfl, hs, hu, ha, hb, hc⟩
  obtain ⟨whole, ⟨s', u', a', b', c', hcs, hs', hu', ha', hb', hc'⟩, -, -, hlast⟩ := h
  -- both texts have the same first two parts, so the last part goes on with the blank
  have hwhole : (a ++ s :: (b ++ u :: c) ++ x :: after).splitOnP isSeparator = [a', b', c'] :=
    splitOnP_eq_three_iff.2 ⟨ha'.free, hb'.free, hc'.free, s', u', hs', hu', hcs⟩
  rw [List.append_assoc, List.cons_append, List.append_assoc, List.cons_append,
    List.splitOnP_append_cons_of_forall_mem ha.free s hs,
    List.splitOnP_append_cons_of_forall_mem hb.free u hu] at hwhole
  have hpart : c ++ x :: after = c' := by
    obtain ⟨-, ⟨hpart, -⟩ | ⟨-, tail, -, -, hnone⟩⟩ :=
      splitOnP_eq_cons_iff.1 (List.cons.inj (List.cons.inj hwhole).2).2
    · exact hpart
    · exact absurd hnone (List.splitOnP_ne_nil _ _)
  -- as neither of its ends is a blank, that part is all number
  have hbare : Text.Bare Text.isBlank (c ++ x :: after) := by
    constructor
    · intro d hd
      obtain ⟨e, rest, rfl⟩ := List.exists_cons_of_ne_nil hc.part_ne_nil
      cases hd
      refine hbefore d (List.mem_append_right a (List.mem_cons_of_mem s ?_))
      exact List.mem_append_right b (List.mem_cons_of_mem u List.mem_cons_self)
    · rw [List.getLast?_append_cons]
      exact hend
  have hself : c ++ x :: after = whole.last := by
    rw [← Text.trimWhere_eq_iff.2 hc'.trims, ← hpart, Text.trimWhere_of_bare hbare]
  have hdigit : x.isDigit := by
    refine hlast.isDigit_of_mem ?_
    rw [← hself]
    exact List.mem_append_right c List.mem_cons_self
  rw [(Text.plain_of_isDigit hdigit).1.2.2] at hx
  cases hx

/-- A date that is cut at a blank is refused. -/
lemma refused_before_blank (h : DateText (before ++ x :: after) f) (h0 : before ≠ []) :
    Refused before (.notThreeFields (String.ofList (afterSign before))) := by
  refine .notThreeFields h0 fun fields => ?_
  obtain ⟨c, before, rfl⟩ := List.exists_cons_of_ne_nil h0
  by_cases hc : c = '-'
  · subst hc
    cases h with
    | positive ht =>
      obtain ⟨fields, hfields, -⟩ := ht
      exact absurd hfields (not_hasFields_minus _ fields)
    | negative ht =>
      exact not_hasFields_before_blank (fun c hc => hbefore c (List.mem_cons_of_mem _ hc)) hx hend ht
  · have hself : afterSign (c :: before) = c :: before := by
      rw [afterSign]
      rintro rest ⟨⟩
      exact hc rfl
    cases h with
    | positive ht =>
      rw [hself]
      exact not_hasFields_before_blank hbefore hx hend ht
    | negative ht => exact absurd rfl hc

end

end Reading

/-! ### The date of a timestamp -/

namespace Persian

variable {cs : List Char} {f : Ymd}

/-- A blank stands inside the text, when those around it are gone. -/
def HasGap (s : String) : Prop := ∃ c ∈ Text.clean s.toList, Text.isBlank c

-- The characters of the text are looked at one by one, not all characters there are.
instance (s : String) : Decidable (HasGap s) :=
  List.decidableBEx (fun c => Text.isBlank c) (Text.clean s.toList)

/-- A gap begins with the first blank inside the text. -/
lemma exists_first_blank {s : String} (h : HasGap s) :
    ∃ before x after, Text.clean s.toList = before ++ x :: after ∧
      (∀ c ∈ before, Text.isBlank c = false) ∧ Text.isBlank x := by
  obtain ⟨x, hx⟩ := Option.isSome_iff_exists.1 (List.find?_isSome.2 h)
  obtain ⟨hblank, before, after, hclean, hbefore⟩ := List.find?_eq_some_iff_append.1 hx
  exact ⟨before, x, after, hclean, fun c hc => by simpa using hbefore c hc, hblank⟩

lemma endsDate_iff {x : Char} : endsDate x ↔ x = 'T' ∨ Text.isBlank x := by
  rw [endsDate, Bool.or_eq_true, beq_iff_eq]

lemma endsDate_of_isBlank {x : Char} (h : Text.isBlank x) : endsDate x :=
  endsDate_iff.2 (Or.inr h)

lemma endsDate_of_isDigit_or {x : Char} (h : x.isDigit ∨ isSeparator x) : endsDate x = false := by
  have hletter : x ≠ 'T' := by
    rintro rfl
    exact absurd h (by decide)
  rw [endsDate, (plain_of_isDigit_or h).1.2.2, Bool.or_false]
  exact beq_false_of_ne hletter

section

variable {before after : List Char} (hclean : Text.clean cs = before ++ after)
    (hbefore : ∀ c ∈ before, c.isDigit ∨ isSeparator c)
    (hafter : ∀ c, after.head? = some c → endsDate c)
include hclean hbefore hafter

/-- The part of a timestamp up to its first `T` or blank is read as its date. -/
lemma yearFirst_datePart : yearFirst (datePart cs) = (signedOfCleaned before).map Signed.toYmd := by
  have hnone : after.takeWhile (fun c => !endsDate c) = [] := by
    cases after with
    | nil => rfl
    | cons x after =>
      refine List.takeWhile_cons_of_neg ?_
      rw [hafter x rfl]
      exact Bool.false_ne_true
  have hdate : datePart cs = before := by
    rw [datePart, hclean, List.takeWhile_append_of_pos, hnone, List.append_nil]
    intro c hc
    rw [endsDate_of_isDigit_or (hbefore c hc)]
    rfl
  have hself : Text.clean before = before :=
    Text.clean_eq_self fun c hc => plain_of_isDigit_or (hbefore c hc)
  rw [yearFirst, signedFields, hdate, hself]

end

section

variable {s : String} (h : DateText (Text.clean s.toList) f)
include h

lemma yearFirst_datePart_of_not_hasGap (hgap : ¬HasGap s) :
    yearFirst (datePart s.toList) = .ok f := by
  have hchars : ∀ c ∈ Text.clean s.toList, c.isDigit ∨ isSeparator c :=
    fun c hc => (h.mem_cases hc).resolve_right fun hblank => hgap ⟨c, hc, hblank⟩
  rw [yearFirst_datePart (List.append_nil _).symm hchars nofun]
  exact signedOfCleaned_eq_ok_iff.2 h

lemma exists_yearFirst_datePart_error (hgap : HasGap s) :
    ∃ e, yearFirst (datePart s.toList) = .error e := by
  obtain ⟨before, x, after, hclean, hbefore, hx⟩ := exists_first_blank hgap
  have hbare : Text.Bare Text.isBlank (Text.clean s.toList) := Text.bare_trimWhere _ _
  have hchars : ∀ c ∈ before, c.isDigit ∨ isSeparator c := by
    intro c hc
    have hmem : c ∈ Text.clean s.toList := by
      rw [hclean]
      exact List.mem_append_left _ hc
    exact (h.mem_cases hmem).resolve_right (by rw [hbefore c hc]; exact Bool.false_ne_true)
  rw [hclean] at h hbare
  rw [yearFirst_datePart hclean hchars fun c hc => by cases hc; exact endsDate_of_isBlank hx]
  refine ⟨_, map_eq_error.2 (signedOfCleaned_eq_error_iff.2 (refused_before_blank hbefore hx ?_ h ?_))⟩
  · intro c hc
    exact hbare.2 c (by rw [List.getLast?_append_cons]; exact hc)
  · -- the first character of the text is no blank
    rintro rfl
    rw [hbare.1 x rfl] at hx
    cases hx

end

/-! ### What is shown -/

variable {s : String} {e : ReadError} {j : Date .jalali}

lemma shortForm_ne_placeholder (j : Date .jalali) : shortForm j ≠ placeholder := by
  intro h
  have hslash : '/' ∈ j.chars := List.mem_append_right _ List.mem_cons_self
  have hmem : '/' ∈ (shortForm j).toList := by
    rw [shortForm, String.toList_ofList]
    exact List.mem_map.2 ⟨'/', hslash, rfl⟩
  rw [h] at hmem
  exact absurd hmem (by decide)

lemma display_of_ok (hfields : yearFirst (datePart s.toList) = .ok f)
    (hdate : jalaliOfFields f = .ok j) : display s = shortForm j := by
  rw [display, ofTimestamp, jalaliOfTimestamp, hfields]
  simp only [bind, Except.bind, hdate]
  rfl

lemma display_of_error (hfields : yearFirst (datePart s.toList) = .error e) :
    display s = placeholder := by
  rw [display, ofTimestamp, jalaliOfTimestamp, hfields]
  rfl

/-- The fields of a typed date are shown as their date, unless a gap is in the way. -/
lemma display_of_dateText (h : DateText (Text.clean s.toList) f) (hdate : jalaliOfFields f = .ok j) :
    display s = if HasGap s then placeholder else shortForm j := by
  split
  · obtain ⟨e, hfields⟩ := exists_yearFirst_datePart_error h ‹_›
    exact display_of_error hfields
  · exact display_of_ok (yearFirst_datePart_of_not_hasGap h ‹_›) hdate

lemma dateText_of_read {c : Calendar} {d : Date c} (h : Date.read c s = .ok d) :
    DateText (Text.clean s.toList) d.toYmd ∧ Date.ofYmd c d.toYmd = .ok d := by
  obtain ⟨f, hfields, hofYmd⟩ := dateOfChars_eq_ok_iff.1 h
  obtain ⟨-, rfl⟩ := Date.ofYmd_eq_ok_iff.1 hofYmd
  exact ⟨signedOfCleaned_eq_ok_iff.1 hfields, hofYmd⟩

/-- A text that is read as a Jalali date in a year below the threshold is shown as this date, and one
that is read as a Gregorian date in a later year as the Jalali date of the same day, unless there is a
gap in the text.  Then it is cut there, and the placeholder is shown, which is not the text of any
date. -/
theorem typed_dates_are_shown (s : String) :
    (∀ d, Date.read .jalali s = .ok d → d.year < gregorianThreshold →
      display s = if HasGap s then placeholder else shortForm d) ∧
    (∀ g j, Date.read .gregorian s = .ok g → gregorianThreshold ≤ g.year →
      g.convert .jalali = .ok j →
      display s = if HasGap s then placeholder else shortForm j) ∧
    ∀ j, shortForm j ≠ placeholder := by
  refine ⟨fun d hread hyear => ?_, fun g j hread hyear hconvert => ?_, shortForm_ne_placeholder⟩
  · obtain ⟨htext, hdate⟩ := dateText_of_read hread
    refine display_of_dateText htext ?_
    rw [jalaliOfFields, if_pos hyear, hdate]
  · obtain ⟨htext, hdate⟩ := dateText_of_read hread
    refine display_of_dateText htext ?_
    rw [jalaliOfFields, if_neg (Int.not_lt.2 hyear), hdate]
    exact hconvert

/-- A Jalali date with quotes and digits of three scripts, a Gregorian one that becomes a leap day, and
one with a gap behind its sign. -/
theorem typed_dates_are_shown_mixed :
    display " '۱4٠٣.1-05'" = "۱۴۰۳/۰۱/۰۵" ∧
    display "2025/03/20" = "۱۴۰۳/۱۲/۳۰" ∧
    display "- 61/1/1" = placeholder := by
  have hjalali := (typed_dates_are_shown " '۱4٠٣.1-05'").1 ⟨⟨1403, 1, 5⟩⟩ rfl (by decide)
  have hgregorian := (typed_dates_are_shown "2025/03/20").2.1 ⟨⟨2025, 3, 20⟩⟩ ⟨⟨1403, 12, 30⟩⟩ rfl
    (by decide) (by decide)
  have hgap := (typed_dates_are_shown "- 61/1/1").1 ⟨⟨-61, 1, 1⟩⟩ rfl (by decide)
  rw [if_neg (by decide)] at hjalali hgregorian
  rw [if_pos (by decide)] at hgap
  exact ⟨hjalali, hgregorian, hgap⟩

/-- A date with blanks between its numbers is read, and yet the placeholder is shown for it. -/
theorem spaced_date_is_not_shown :
    Date.read .jalali "1403 / 01 / 05" = .ok ⟨⟨1403, 1, 5⟩⟩ ∧ 1403 < gregorianThreshold ∧
    display "1403 / 01 / 05" = placeholder ∧
    display "1403 / 01 / 05" ≠ shortForm ⟨⟨1403, 1, 5⟩⟩ := by
  refine ⟨rfl, by decide, rfl, ?_⟩
  have hshown : display "1403 / 01 / 05" = placeholder := rfl
  rw [hshown]
  exact (shortForm_ne_placeholder _).symm

end Persian

end PersianCalendar
