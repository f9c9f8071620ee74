import PersianCalendar.FixedWidth.Reading
import PersianCalendar.Proofs.FixedWidth.Date
import PersianCalendar.Proofs.Reading.Fields
import PersianCalendar.Reading.Loose

/-!
# Reading and showing dates in words of fixed width

A numeral is read only if it has 32 bits, so the fields of every text that is read fit in their words
(`Reading.fits32_of_signedFields`, `Reading.fits32_of_looseFields`).  From there on texts are read and
shown in words as they are in exact integers, whatever the text is.
-/

namespace PersianCalendar

open Outcome

/-! ### The numbers of a text -/

namespace Reading

variable {cs : List Char}

lemma holds_of_numeral {n : Nat} (h : numeral cs = .ok n) : Width.signed32.Holds n := by
  rw [numeral] at h
  split at h
  · rename_i hnumeral
    cases h
    exact ⟨Int.le_trans (by decide) (Int.natCast_nonneg _), hnumeral.2⟩
  · cases h

lemma fits32_of_traverse {fields : Triple (List Char)} {t : Triple Nat}
    (h : fields.traverse numeral = .ok t) : t.toYmd.Fits32 := by
  obtain ⟨hfirst, hmiddle, hlast⟩ := traverse_eq_ok_iff.1 h
  exact ⟨holds_of_numeral hfirst, holds_of_numeral hmiddle, holds_of_numeral hlast⟩

lemma fits32_of_numbers {t : Triple Nat} (h : numbers cs = .ok t) : t.toYmd.Fits32 := by
  obtain ⟨fields, -, ht⟩ := bind_eq_ok.1 h
  exact fits32_of_traverse ht

lemma fits32_of_signedFields {s : Signed} (h : signedFields cs = .ok s) :
    s.numbers.toYmd.Fits32 := by
  simp only [signedFields, signedOfCleaned] at h
  split at h
  · cases h
  · obtain ⟨t, ht, rfl⟩ := map_eq_ok.1 h
    exact fits32_of_numbers ht
  · obtain ⟨t, ht, rfl⟩ := map_eq_ok.1 h
    exact fits32_of_numbers ht

lemma fits32_of_taggedFields {c : Calendar} {s : Signed} (h : taggedFields cs = .ok (c, s)) :
    s.numbers.toYmd.Fits32 := by
  simp only [taggedFields] at h
  split at h
  · cases h
  split at h
  · cases h
  obtain ⟨t, ht, heq⟩ := map_eq_ok.1 h
  cases heq
  exact fits32_of_signedFields ht

/-- The sign of the year is no step out of its word, since the numeral has none. -/
lemma Signed.fits32_toYmd {s : Signed} (h : s.numbers.toYmd.Fits32) : s.toYmd.Fits32 := by
  obtain ⟨hyear, hmonth, hday⟩ := h
  refine ⟨?_, hmonth, hday⟩
  simp [Triple.toYmd] at hyear
  simp [Signed.toYmd]
  split <;> omega

/-- The fields that are guessed are numbers of the text. -/
lemma fits32_of_guess {threshold : Int} {fields : Triple (List Char)} {t : Triple Nat}
    {meant : Calendar × Ymd} (ht : t.toYmd.Fits32) (h : guess threshold fields t = some meant) :
    meant.2.Fits32 := by
  obtain ⟨hfirst, hmiddle, hlast⟩ := id ht
  have hswap : t.swap.toYmd.Fits32 := ⟨hlast, hmiddle, hfirst⟩
  simp only [guess] at h
  split at h
  · cases h
    exact ht
  split at h
  · cases h
    exact hswap
  split at h
  · cases h
    exact ht
  split at h
  · cases h
    exact hswap
  · cases h

lemma fits32_of_looseFields {threshold : Int} {meant : Calendar × Ymd}
    (h : looseFields threshold cs = .ok meant) : meant.2.Fits32 := by
  simp only [looseFields] at h
  split at h
  · cases h
  obtain ⟨fields, -, h⟩ := bind_eq_ok.1 h
  obtain ⟨t, ht, h⟩ := bind_eq_ok.1 h
  split at h
  · rename_i hguess
    cases h
    exact fits32_of_guess (fits32_of_traverse ht) hguess
  · cases h

end Reading

namespace FixedWidth.Reading

open PersianCalendar (Date)
open PersianCalendar.Reading (Signed)

/-! ### Reading -/

@[simp] lemma ofDate_ofExcept {α : Type} (r : Except DateError α) :
    ofDate (Checked.ofExcept r) = Checked.ofExcept (ReadError.ofDate r) :=
  rfl

lemma signedToYmd_eq_ok {s : Signed} (h : s.numbers.toYmd.Fits32) :
    signedToYmd s = .ok s.toYmd := by
  have hyear := (Signed.fits32_toYmd h).1
  rw [signedToYmd]
  by_cases hsign : s.negative = true
  · simp only [Signed.toYmd, hsign, if_true] at hyear ⊢
    simp [step32_eq hyear.1 hyear.2]
  · simp only [Signed.toYmd, hsign]
    rfl

@[simp] lemma date_eq (c : Calendar) (s : String) :
    date c s = Checked.ofExcept (PersianCalendar.Date.read c s) := by
  have hexact : PersianCalendar.Date.read c s = (do
      let fields ← Reading.signedFields s.toList
      ReadError.ofDate (PersianCalendar.Date.ofYmd c fields.toYmd)) := by
    rw [PersianCalendar.Date.read, Reading.dateOfChars, Reading.yearFirst]
    cases Reading.signedFields s.toList <;> rfl
  -- the fields are read before anything is a step, so what they are is known in the steps
  rw [hexact, date]
  refine Checked.ofExcept_bind fun fields hfields => ?_
  have hfits := Reading.fits32_of_signedFields hfields
  simp [signedToYmd_eq_ok hfits, Date.ofYmd_eq c (Signed.fits32_toYmd hfits).1]

lemma anyDate_eq (c : Calendar) {f : Ymd} (h : Width.signed32.Holds f.year) :
    anyDate c f = Checked.ofExcept (AnyDate.ofYmd c f) := by
  rw [anyDate, Date.ofYmd_eq c h]
  exact Checked.map_ofExcept (AnyDate.mk c) (PersianCalendar.Date.ofYmd c f)

@[simp] lemma tagged_eq (s : String) : tagged s = Checked.ofExcept (AnyDate.readTagged s) := by
  rw [tagged, AnyDate.readTagged]
  refine Checked.ofExcept_bind fun meant hmeant => ?_
  obtain ⟨c, fields⟩ := meant
  have hfits := Reading.fits32_of_taggedFields hmeant
  simp [signedToYmd_eq_ok hfits, anyDate_eq c (Signed.fits32_toYmd hfits).1]

@[simp] lemma looseWith_eq (threshold : Int) (s : String) :
    looseWith threshold s = Checked.ofExcept (AnyDate.readLooseWith threshold s) := by
  rw [looseWith, AnyDate.readLooseWith]
  refine Checked.ofExcept_bind fun meant hmeant => ?_
  obtain ⟨c, f⟩ := meant
  have hfits := Reading.fits32_of_looseFields hmeant
  simp [anyDate_eq c hfits.1]

/-! ### Showing -/

/-- A digit has its place in the table of the Persian digits. -/
@[simp] lemma persianDigit_eq_ok (c : Char) : persianDigit c = .ok (Digit.persian c) := by
  rw [persianDigit, Digit.persian]
  by_cases hdigit : c.isDigit = true
  · obtain ⟨hlt, hchar⟩ := Digit.digitChar_of_isDigit hdigit
    have hcode := Nat.toNat_digitChar_of_lt_ten hlt
    rw [hchar] at hcode
    have hzero : '0'.toNat = 48 := rfl
    have hlength : Digit.persianDigits.length = 10 := rfl
    have hplace : ((c.toNat : Int) - ('0'.toNat : Int)).toNat = c.toNat - '0'.toNat := by omega
    rw [if_pos hdigit, if_pos hdigit, item_eq_ok (by omega) '۰', hplace]
  · rw [if_neg hdigit, if_neg hdigit]

@[simp] lemma mapM_persianDigit_eq_ok (cs : List Char) :
    cs.mapM persianDigit = .ok (cs.map Digit.persian) := by
  rw [funext persianDigit_eq_ok]
  exact List.mapM_pure

@[simp] lemma shortForm_eq_ok (d : PersianCalendar.Date .jalali) :
    shortForm d = .ok (Persian.shortForm d) := by
  simp [shortForm, Persian.shortForm, Persian.shortChars]

/-- A month that there is has its place in the table of the names. -/
lemma longForm_eq_ok {d : PersianCalendar.Date .jalali} (h : 1 ≤ d.month ∧ d.month ≤ 12) :
    longForm d = .ok (Persian.longForm d) := by
  have hlength : Persian.persianMonths.length = 12 := rfl
  have hname : Persian.persianMonths.getD (d.month - 1).toNat "" =
      (Persian.persianMonth? d.month).getD "" := by
    rw [Persian.persianMonth?, Persian.nameOf?, if_pos h.1, List.getD_eq_getElem?_getD]
  rw [longForm, step8_eq (by omega) (by omega), ok_bind, item_eq_ok (by omega) "", ok_bind, hname]
  simp only [mapM_persianDigit_eq_ok, ok_bind]
  rfl

/-- Both ways of taking the fields are those of the exact computation. -/
lemma jalaliOfFields_eq {f : Ymd} (h : Width.signed32.Holds f.year) :
    jalaliOfFields f = Checked.ofExcept (Persian.jalaliOfFields f) := by
  rw [jalaliOfFields, Persian.jalaliOfFields]
  by_cases hyear : f.year < Reading.gregorianThreshold
  · rw [if_pos hyear, if_pos hyear]
    exact Date.ofYmd_eq .jalali h
  · rw [if_neg hyear, if_neg hyear, Date.ofYmd_eq .gregorian h]
    refine Checked.ofExcept_bind fun d hd => ?_
    exact Date.convert_eq (PersianCalendar.Date.ofYmd_eq_ok_iff.1 hd).1

@[simp] lemma ofTimestamp_eq (s : String) :
    ofTimestamp s = Checked.ofExcept (Persian.ofTimestamp s) := by
  have hexact : Persian.ofTimestamp s = (do
      let fields ← Reading.signedFields (Persian.datePart s.toList)
      let d ← ReadError.ofDate (Persian.jalaliOfFields fields.toYmd)
      return Persian.shortForm d) := by
    rw [Persian.ofTimestamp, Persian.jalaliOfTimestamp, Reading.yearFirst]
    cases Reading.signedFields (Persian.datePart s.toList) <;> rfl
  rw [hexact, ofTimestamp]
  refine Checked.ofExcept_bind fun fields hfields => ?_
  have hfits := Reading.fits32_of_signedFields hfields
  rw [signedToYmd_eq_ok hfits, Checked.lift_ok_bind,
    jalaliOfFields_eq (Signed.fits32_toYmd hfits).1, ofDate_ofExcept]
  refine Checked.ofExcept_bind fun d _ => ?_
  simp

/-- Whatever the text is, something is shown. -/
lemma display_eq_ok (s : String) : display s = .ok (Persian.display s) := by
  rw [display, ofTimestamp_eq, Persian.display]
  cases Persian.ofTimestamp s <;> rfl

end FixedWidth.Reading

end PersianCalendar
