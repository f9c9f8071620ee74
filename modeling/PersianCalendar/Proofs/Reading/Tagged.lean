import PersianCalendar.Proofs.Reading.Grammar
import PersianCalendar.Proofs.Text.NormalForm
import PersianCalendar.Reading.Tagged

/-!
# Dates behind a tag

A tag is a letter that names a calendar, with blanks around it.  That a text has a tag in front of its
first colon is said without cutting the text (`HasTag`), and the text is cut at just such a colon
(`tag?_eq_some_iff`).  What stands behind it is read as a date of the calendar that is named
(`AnyDate.readTagged_of_hasTag`); a text without a tag is refused whatever else it holds
(`AnyDate.readTagged_eq_noTag_iff`).

The text is cleaned before it is cut, and what stands behind the tag is cleaned once more.  Without
quotes the second cleaning leaves what a single one leaves of the date alone
(`exists_hasTag_clean`).
-/

namespace PersianCalendar

open Outcome

/-- The letters that name a calendar in front of a date. -/
def Calendar.letters : Calendar → List Char
  | jalali => ['J', 'j']
  | gregorian => ['G', 'g']

namespace Reading

variable {c : Calendar} {cs tag rest : List Char} {letter : Char}

/-! ### Tags -/

/-- The text is a letter that names the calendar, with characters of a class around it. -/
def IsTag (p : Char → Prop) (c : Calendar) (cs : List Char) : Prop :=
  ∃ before letter after, cs = before ++ letter :: after ∧ letter ∈ c.letters ∧
    (∀ x ∈ before, p x) ∧ ∀ x ∈ after, p x

/-- In front of the first colon of the text a letter names the calendar, between blanks, and `rest`
stands behind the colon. -/
def HasTag (cs : List Char) (c : Calendar) (rest : List Char) : Prop :=
  ∃ tag, IsTag (fun x => Text.isBlank x) c tag ∧ cs = tag ++ ':' :: rest

lemma plain_of_mem_letters (h : letter ∈ c.letters) :
    (Text.Plain letter ∧ Text.isQuote letter = false) ∧ letter ≠ ':' := by
  have hall : c.letters.all fun x => (Text.Plain x ∧ Text.isQuote x = false) ∧ x ≠ ':' := by
    cases c <;> decide
  exact List.all_iff_forall_prop.1 hall letter h

lemma calendarOfTag?_eq_some_iff : calendarOfTag? cs = some c ↔ ∃ x ∈ c.letters, cs = [x] := by
  constructor
  · fun_cases calendarOfTag? cs
    all_goals rintro ⟨⟩
    all_goals exact ⟨_, by decide, rfl⟩
  · rintro ⟨x, hx, rfl⟩
    cases c with
    | jalali => rcases List.mem_pair.1 hx with rfl | rfl <;> rfl
    | gregorian => rcases List.mem_pair.1 hx with rfl | rfl <;> rfl

/-- A text is trimmed to a letter exactly if it is this letter between blanks. -/
lemma calendarOfTag?_trim_eq_some_iff :
    calendarOfTag? (Text.trim tag) = some c ↔ IsTag (fun x => Text.isBlank x) c tag := by
  simp only [calendarOfTag?_eq_some_iff, Text.trim, Text.trimWhere_eq_iff]
  constructor
  · rintro ⟨letter, hletter, -, before, after, rfl, hbefore, hafter⟩
    exact ⟨before, letter, after, by simp, hletter, hbefore, hafter⟩
  · rintro ⟨before, letter, after, rfl, hletter, hbefore, hafter⟩
    refine ⟨letter, hletter, Text.bare_of_forall ?_, before, after, by simp, hbefore, hafter⟩
    intro x hx
    rw [List.mem_singleton.1 hx]
    exact (plain_of_mem_letters hletter).1.1.2.2

/-- There is no colon in a tag. -/
lemma IsTag.colon_notMem (h : IsTag (fun x => Text.isBlank x) c tag) : ':' ∉ tag := by
  obtain ⟨before, letter, after, rfl, hletter, hbefore, hafter⟩ := h
  intro hmem
  rcases List.mem_append.1 hmem with hmem | hmem
  · exact absurd (hbefore ':' hmem) (by decide)
  rcases List.mem_cons.1 hmem with rfl | hmem
  · exact (plain_of_mem_letters hletter).2 rfl
  · exact absurd (hafter ':' hmem) (by decide)

/-! ### The first colon -/

lemma cutAtColon_eq_some_iff :
    cutAtColon cs = some (tag, rest) ↔ cs = tag ++ ':' :: rest ∧ ':' ∉ tag := by
  induction cs generalizing tag with
  | nil =>
    constructor
    · rintro ⟨⟩
    · rintro ⟨hcs, -⟩
      exact absurd hcs.symm (List.append_ne_nil_of_right_ne_nil tag (List.cons_ne_nil ':' rest))
  | cons x cs ih =>
    by_cases hx : x = ':'
    · rw [cutAtColon, if_pos hx]
      constructor
      · rintro ⟨⟩
        exact ⟨by rw [hx, List.nil_append], List.not_mem_nil⟩
      · rintro ⟨hcs, hnone⟩
        cases tag with
        | nil =>
          cases hcs
          rfl
        | cons y tag =>
          cases hcs
          exact absurd (hx ▸ List.mem_cons_self) hnone
    · rw [cutAtColon, if_neg hx, Option.map_eq_some_iff]
      constructor
      · rintro ⟨⟨before, after⟩, hcut, ⟨⟩⟩
        obtain ⟨rfl, hnone⟩ := ih.1 hcut
        exact ⟨rfl, List.not_mem_cons_of_ne_of_not_mem (Ne.symm hx) hnone⟩
      · rintro ⟨hcs, hnone⟩
        cases tag with
        | nil =>
          cases hcs
          exact absurd rfl hx
        | cons y tag =>
          cases hcs
          exact ⟨(tag, rest), ih.2 ⟨rfl, List.not_mem_of_not_mem_cons hnone⟩, rfl⟩

/-- The text is cut at its first colon if a tag stands in front of it. -/
lemma tag?_eq_some_iff : tag? cs = some (c, rest) ↔ HasTag cs c rest := by
  simp only [tag?, bind, Option.bind_eq_some_iff, pure, Option.some.injEq, Prod.mk.injEq]
  constructor
  · rintro ⟨⟨tag, after⟩, hcut, _, htag, rfl, rfl⟩
    exact ⟨tag, calendarOfTag?_trim_eq_some_iff.1 htag, (cutAtColon_eq_some_iff.1 hcut).1⟩
  · rintro ⟨tag, htag, rfl⟩
    exact ⟨(tag, rest), cutAtColon_eq_some_iff.2 ⟨rfl, htag.colon_notMem⟩, c,
      calendarOfTag?_trim_eq_some_iff.2 htag, rfl, rfl⟩

/-! ### What stands behind the tag -/

lemma taggedFields_of_hasTag (h : HasTag (Text.clean cs) c rest) :
    taggedFields cs = (signedFields rest).map fun s => (c, s) := by
  have hne : Text.clean cs ≠ [] := by
    obtain ⟨tag, -, hclean⟩ := h
    rw [hclean]
    exact List.append_ne_nil_of_right_ne_nil tag (List.cons_ne_nil ':' rest)
  simp only [taggedFields, if_neg hne, tag?_eq_some_iff.2 h]

lemma taggedFields_of_not_hasTag (hne : Text.clean cs ≠ [])
    (h : ∀ c rest, ¬HasTag (Text.clean cs) c rest) :
    taggedFields cs = .error (.noTag (String.ofList (Text.clean cs))) := by
  have hnone : tag? (Text.clean cs) = none := by
    rw [Option.eq_none_iff_forall_ne_some]
    rintro ⟨c, rest⟩ htag
    exact h c rest (tag?_eq_some_iff.1 htag)
  simp only [taggedFields, if_neg hne, hnone]

/-! ### Tags that are cleaned -/

/-- A tag is still one when its text is cleaned, and without quotes the text behind it is cleaned to
the same afterwards. -/
lemma exists_hasTag_clean (htag : IsTag (fun x => Text.isBlank x ∨ Text.isMark x) c tag)
    (hquote : ∀ x ∈ cs, Text.isQuote x = false) :
    ∃ rest, HasTag (Text.clean (tag ++ ':' :: cs)) c rest ∧ Text.clean rest = Text.clean cs := by
  obtain ⟨before, letter, after, rfl, hletter, hbefore, hafter⟩ := htag
  obtain ⟨⟨hplain, hletterQuote⟩, -⟩ := plain_of_mem_letters hletter
  have hquotes : ∀ x ∈ before ++ letter :: after ++ ':' :: cs, Text.isQuote x = false := by
    simp only [List.forall_mem_append, List.forall_mem_cons]
    exact ⟨⟨fun x hx => Text.isQuote_of_isBlank_or_isMark (hbefore x hx), hletterQuote,
      fun x hx => Text.isQuote_of_isBlank_or_isMark (hafter x hx)⟩, rfl, hquote⟩
  have hplainText : Text.plain (before ++ letter :: after ++ ':' :: cs) =
      Text.plain before ++ (letter :: (Text.plain after ++ [':']) ++ Text.plain cs) ++ [] := by
    have hcolon : Text.Plain ':' := by decide
    simp [Text.plain_cons_of_plain hplain, Text.plain_cons_of_plain hcolon, List.append_nil]
  have hbare : Text.Bare Text.isBlank (letter :: (Text.plain after ++ [':'])) :=
    Text.bare_cons_concat hplain.2.2 rfl
  have hclean : Text.clean (before ++ letter :: after ++ ':' :: cs) =
      letter :: Text.plain after ++ ':' :: (Text.plain cs).rdropWhile Text.isBlank := by
    rw [Text.clean_of_no_quotes hquotes, hplainText, Text.trim,
      Text.trimWhere_append (Text.isBlank_of_mem_plain hbefore) (List.forall_mem_nil _),
      Text.trimWhere_append_right hbare (List.cons_ne_nil _ _)]
    simp only [List.cons_append, List.append_assoc, List.nil_append]
  have hcleanTag : IsTag (fun x => Text.isBlank x) c (letter :: Text.plain after) :=
    ⟨[], letter, Text.plain after, rfl, hletter, List.forall_mem_nil _, Text.isBlank_of_mem_plain hafter⟩
  exact ⟨_, ⟨_, hcleanTag, hclean⟩, (Text.SpelledAlike.rdropWhile_right cs).clean_eq.symm⟩

end Reading

namespace AnyDate

open Reading

variable {s : String} {c : Calendar} {rest : List Char}

/-- What stands behind a tag is read as a date of the calendar that the tag names. -/
lemma readTagged_of_hasTag (h : HasTag (Text.clean s.toList) c rest) :
    readTagged s = (dateOfChars c rest).map (AnyDate.mk c) := by
  simp only [readTagged, taggedFields_of_hasTag h, dateOfChars, yearFirst]
  cases signedFields rest with
  | error e => rfl
  | ok fields =>
    simp only [Except.map, bind, Except.bind, ReadError.ofDate, AnyDate.ofYmd]
    cases Date.ofYmd c fields.toYmd <;> rfl

/-- The fields behind a tag are never refused for want of a tag. -/
lemma dateOfChars_ne_noTag (c : Calendar) (cs : List Char) (text : String) :
    dateOfChars c cs ≠ .error (.noTag text) := by
  intro h
  rcases dateOfChars_eq_error_iff.1 h with hfields | ⟨f, -, e, -, hdate⟩
  · have hrefused : Refused (Text.clean cs) (.noTag text) :=
      signedOfCleaned_eq_error_iff.1 (map_eq_error.1 hfields)
    generalize Text.clean cs = cleaned at hrefused
    cases hrefused
  · cases hdate

lemma readTagged_of_empty (h : Text.clean s.toList = []) : readTagged s = .error .empty := by
  simp only [readTagged, taggedFields, if_pos h]
  rfl

lemma readTagged_of_not_hasTag (hne : Text.clean s.toList ≠ [])
    (h : ∀ c rest, ¬HasTag (Text.clean s.toList) c rest) :
    readTagged s = .error (.noTag (Text.cleaned s)) := by
  simp only [readTagged, taggedFields_of_not_hasTag hne h]
  rfl

/-- A text is refused for want of a tag exactly if something is left of it that has none. -/
lemma readTagged_eq_noTag_iff {text : String} :
    readTagged s = .error (.noTag text) ↔
      text = Text.cleaned s ∧ Text.cleaned s ≠ "" ∧
        ∀ c rest, ¬HasTag (Text.clean s.toList) c rest := by
  have hempty : Text.cleaned s = "" ↔ Text.clean s.toList = [] := String.ofList_eq_empty_iff
  constructor
  · intro h
    have hne : Text.clean s.toList ≠ [] := by
      intro hnil
      rw [readTagged_of_empty hnil] at h
      cases h
    have hnone : ∀ c rest, ¬HasTag (Text.clean s.toList) c rest := by
      intro c rest htag
      rw [readTagged_of_hasTag htag, map_eq_error] at h
      exact dateOfChars_ne_noTag c rest text h
    rw [readTagged_of_not_hasTag hne hnone] at h
    exact ⟨(ReadError.noTag.inj (Except.error.inj h)).symm, mt hempty.1 hne, hnone⟩
  · rintro ⟨rfl, hne, hnone⟩
    exact readTagged_of_not_hasTag (mt hempty.2 hne) hnone

lemma exists_hasTag_of_readTagged {d : AnyDate} (h : readTagged s = .ok d) :
    ∃ rest, HasTag (Text.clean s.toList) d.calendar rest ∧
      dateOfChars d.calendar rest = .ok d.date := by
  by_cases hnil : Text.clean s.toList = []
  · rw [readTagged_of_empty hnil] at h
    cases h
  by_cases htag : ∃ c rest, HasTag (Text.clean s.toList) c rest
  · obtain ⟨c, rest, htag⟩ := htag
    rw [readTagged_of_hasTag htag] at h
    obtain ⟨date, hdate, rfl⟩ := map_eq_ok.1 h
    exact ⟨rest, htag, hdate⟩
  · simp only [not_exists] at htag
    rw [readTagged_of_not_hasTag hnil htag] at h
    cases h

/-- A date behind a tag is read as the date that the text behind the tag is by itself, in the calendar
that the tag names, and it is refused for the same reason.  Blanks and marks may stand around the
letter of the tag; only quotes would make a difference, as they are taken off the whole text.  A text
without a tag is refused for that reason, unless nothing is left of it: no calendar is guessed. -/
theorem tagged_date_is_typed_date (s : String) :
    (∀ c tag, IsTag (fun x => Text.isBlank x ∨ Text.isMark x) c tag.toList →
      (∀ x ∈ s.toList, Text.isQuote x = false) →
      readTagged (tag ++ ":" ++ s) = (Date.read c s).map (AnyDate.mk c) ∧
      FixedWidth.Reading.tagged (tag ++ ":" ++ s) = AnyDate.mk c <$> FixedWidth.Reading.date c s) ∧
    (∀ text, readTagged s = .error (.noTag text) ↔
      text = Text.cleaned s ∧ Text.cleaned s ≠ "" ∧
        ∀ c rest, ¬HasTag (Text.clean s.toList) c rest) ∧
    (∀ d, readTagged s = .ok d →
      ∃ rest, HasTag (Text.clean s.toList) d.calendar rest ∧
        dateOfChars d.calendar rest = .ok d.date) ∧
    FixedWidth.Reading.tagged s = FixedWidth.Checked.ofExcept (readTagged s) := by
  refine ⟨fun c tag htag hquote => ?_, fun text => readTagged_eq_noTag_iff,
    fun d => exists_hasTag_of_readTagged, FixedWidth.Reading.tagged_eq s⟩
  have htext : (tag ++ ":" ++ s).toList = tag.toList ++ ':' :: s.toList := by
    rw [String.toList_append, String.toList_append, List.append_assoc]
    rfl
  obtain ⟨rest, hrest, hclean⟩ := exists_hasTag_clean htag hquote
  rw [← htext] at hrest
  have hread : readTagged (tag ++ ":" ++ s) = (Date.read c s).map (AnyDate.mk c) := by
    rw [readTagged_of_hasTag hrest]
    simp only [Date.read, dateOfChars, yearFirst, signedFields, hclean]
  refine ⟨hread, ?_⟩
  rw [FixedWidth.Reading.tagged_eq, FixedWidth.Reading.date_eq, hread]
  exact (FixedWidth.Checked.map_ofExcept (AnyDate.mk c) (Date.read c s)).symm

/-- A tag between blanks with a mark in it, a second colon behind a tag, and two texts without one. -/
theorem tagged_date_is_typed_date_marked :
    IsTag (fun x => Text.isBlank x ∨ Text.isMark x) .jalali " \u200fj\u3000".toList ∧
    (∀ x ∈ " ۱۴۰۳/01/05 ".toList, Text.isQuote x = false) ∧
    readTagged (" \u200fj\u3000" ++ ":" ++ " ۱۴۰۳/01/05 ") = .ok ⟨.jalali, ⟨⟨1403, 1, 5⟩⟩⟩ ∧
    readTagged ("g" ++ ":" ++ ":2024/1/1") = .error (.notANumeral ":2024") ∧
    readTagged "'1403/01/05'" = .error (.noTag "1403/01/05") ∧
    readTagged "X:1403/01/05" = .error (.noTag "X:1403/01/05") := by
  have htag : IsTag (fun x => Text.isBlank x ∨ Text.isMark x) .jalali " \u200fj\u3000".toList :=
    ⟨[' ', '\u200f'], 'j', ['\u3000'], rfl, by decide, List.all_iff_forall_prop.1 (by decide),
      List.all_iff_forall_prop.1 (by decide)⟩
  have hcolon : IsTag (fun x => Text.isBlank x ∨ Text.isMark x) .gregorian "g".toList :=
    ⟨[], 'g', [], rfl, by decide, List.forall_mem_nil _, List.forall_mem_nil _⟩
  have hquote : ∀ x ∈ " ۱۴۰۳/01/05 ".toList, Text.isQuote x = false :=
    List.all_iff_forall_prop.1 (by decide)
  have hquoteColon : ∀ x ∈ ":2024/1/1".toList, Text.isQuote x = false :=
    List.all_iff_forall_prop.1 (by decide)
  have hread := ((tagged_date_is_typed_date " ۱۴۰۳/01/05 ").1 .jalali _ htag hquote).1
  have hrefused := ((tagged_date_is_typed_date ":2024/1/1").1 .gregorian _ hcolon hquoteColon).1
  refine ⟨htag, hquote, hread, hrefused, ?_, ?_⟩
  · refine ((tagged_date_is_typed_date "'1403/01/05'").2.1 _).2 ⟨rfl, by decide, ?_⟩
    rintro c rest ⟨tag, -, htext⟩
    have hmem : ':' ∈ tag ++ ':' :: rest := List.mem_append_right tag List.mem_cons_self
    rw [← htext] at hmem
    exact absurd hmem (by decide)
  · refine ((tagged_date_is_typed_date "X:1403/01/05").2.1 _).2 ⟨rfl, by decide, ?_⟩
    intro c rest htag
    have hnone : tag? (Text.clean "X:1403/01/05".toList) = none := rfl
    rw [tag?_eq_some_iff.2 htag] at hnone
    cases hnone

end AnyDate

end PersianCalendar
