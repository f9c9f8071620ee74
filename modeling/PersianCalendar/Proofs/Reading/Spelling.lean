import PersianCalendar.Proofs.FixedWidth.Reading
import PersianCalendar.Proofs.Text.Spelling

/-!
# Reading does not depend on spelling

Every reader cleans the text before anything else and looks at nothing but the cleaned text, so a
reader answers alike for texts that are cleaned to the same (`ReadAlike.of_clean_eq`).  As cleaning
leaves nothing of the spelling, it makes no difference in which digits a date is typed, which marks
stand in it and which blanks stand around it.
-/

namespace PersianCalendar

open Text (SpelledAlike)

/-- No reader tells the texts apart, neither by the date that is read nor by the error, in exact
integers or in words of fixed width. -/
structure ReadAlike (s s' : String) : Prop where
  date : ∀ c, Date.read c s = Date.read c s' ∧
    FixedWidth.Reading.date c s = FixedWidth.Reading.date c s'
  tagged : AnyDate.readTagged s = AnyDate.readTagged s' ∧
    FixedWidth.Reading.tagged s = FixedWidth.Reading.tagged s'
  loose : ∀ threshold, AnyDate.readLooseWith threshold s = AnyDate.readLooseWith threshold s' ∧
    FixedWidth.Reading.looseWith threshold s = FixedWidth.Reading.looseWith threshold s'
  timestamp : Persian.ofTimestamp s = Persian.ofTimestamp s' ∧
    FixedWidth.Reading.ofTimestamp s = FixedWidth.Reading.ofTimestamp s'
  display : Persian.display s = Persian.display s' ∧
    FixedWidth.Reading.display s = FixedWidth.Reading.display s'

/-! ### The cleaned text decides -/

section

variable {s s' : String} (h : Text.clean s.toList = Text.clean s'.toList)
include h

lemma Date.read_of_clean_eq (c : Calendar) : Date.read c s = Date.read c s' := by
  simp only [Date.read, Reading.dateOfChars, Reading.yearFirst, Reading.signedFields, h]

lemma AnyDate.readTagged_of_clean_eq : AnyDate.readTagged s = AnyDate.readTagged s' := by
  simp only [AnyDate.readTagged, Reading.taggedFields, h]

lemma AnyDate.readLooseWith_of_clean_eq (threshold : Int) :
    AnyDate.readLooseWith threshold s = AnyDate.readLooseWith threshold s' := by
  simp only [AnyDate.readLooseWith, Reading.looseFields, h]

/-- The date of a timestamp is cut out of the cleaned text. -/
lemma Persian.ofTimestamp_of_clean_eq : Persian.ofTimestamp s = Persian.ofTimestamp s' := by
  simp only [Persian.ofTimestamp, Persian.jalaliOfTimestamp, Persian.datePart, h]

lemma ReadAlike.of_clean_eq : ReadAlike s s' where
  date c := by
    rw [FixedWidth.Reading.date_eq, FixedWidth.Reading.date_eq, Date.read_of_clean_eq h]
    exact ⟨rfl, rfl⟩
  tagged := by
    rw [FixedWidth.Reading.tagged_eq, FixedWidth.Reading.tagged_eq, AnyDate.readTagged_of_clean_eq h]
    exact ⟨rfl, rfl⟩
  loose threshold := by
    rw [FixedWidth.Reading.looseWith_eq, FixedWidth.Reading.looseWith_eq,
      AnyDate.readLooseWith_of_clean_eq h]
    exact ⟨rfl, rfl⟩
  timestamp := by
    rw [FixedWidth.Reading.ofTimestamp_eq, FixedWidth.Reading.ofTimestamp_eq,
      Persian.ofTimestamp_of_clean_eq h]
    exact ⟨rfl, rfl⟩
  display := by
    rw [FixedWidth.Reading.display_eq_ok, FixedWidth.Reading.display_eq_ok, Persian.display,
      Persian.display, Persian.ofTimestamp_of_clean_eq h]
    exact ⟨rfl, rfl⟩

end

/-! ### Spelling makes no difference -/

/-- Texts that are spelled alike are read alike by every reader: digits of any of the three scripts,
marks anywhere in the text and blanks around it change neither a date nor an error.  So it is with the
text in Persian digits. -/
theorem readers_ignore_spelling :
    (∀ s s' : String, SpelledAlike s.toList s'.toList → ReadAlike s s') ∧
    ∀ s : String, ReadAlike s (Digit.toPersian s) := by
  have halike : ∀ s s' : String, SpelledAlike s.toList s'.toList → ReadAlike s s' :=
    fun _ _ h => .of_clean_eq h.clean_eq
  refine ⟨halike, fun s => halike s _ ?_⟩
  rw [Digit.toPersian, String.toList_ofList]
  exact SpelledAlike.map_persian s.toList

/-- A date in digits of three scripts, with marks beside the tag, in a number and after the last blank,
and a text that is refused in Persian digits for the same reason as in ASCII digits. -/
theorem readers_ignore_spelling_mixed :
    SpelledAlike "J:1403/01/05".toList "\u3000\u200fJ:۱\u200c۴٠3/\u200e۰1/05\u202c \u202e".toList ∧
    AnyDate.readTagged "\u3000\u200fJ:۱\u200c۴٠3/\u200e۰1/05\u202c \u202e" =
      .ok ⟨.jalali, ⟨⟨1403, 1, 5⟩⟩⟩ ∧
    Digit.toPersian "1403/01/32" = "۱۴۰۳/۰۱/۳۲" ∧
    Date.read .jalali "۱۴۰۳/۰۱/۳۲" = .error (.date (.noSuchDate .jalali ⟨1403, 1, 32⟩)) := by
  obtain ⟨halike, hpersian⟩ := readers_ignore_spelling
  have hspelled : SpelledAlike "J:1403/01/05".toList
      "\u3000\u200fJ:۱\u200c۴٠3/\u200e۰1/05\u202c \u202e".toList := by decide
  have hdigits : Digit.toPersian "1403/01/32" = "۱۴۰۳/۰۱/۳۲" := rfl
  refine ⟨hspelled, ?_, hdigits, ?_⟩
  · rw [← (halike _ _ hspelled).tagged.1]
    rfl
  · rw [← hdigits, ← ((hpersian _).date .jalali).1]
    rfl

end PersianCalendar
