import Mathlib.Data.Bool.AllAny
import PersianCalendar.Proofs.Reading.Grammar

/-!
# Dates of an unknown calendar against dates of a known one

A date that is read without knowing its calendar is one that the reader of this calendar finds as well,
in the same text or in its fields the other way round.  Which field is the year is never guessed: the
rules that tell it are stated for the fields with the year in front (`YearLeads`), they say what is
meant for every three numbers (`guess_eq_some_iff`), and they leave open just the outer fields with
equally many digits below the threshold (`guess_eq_none_iff`).
-/

namespace PersianCalendar.Reading

open Outcome

/-! ### Fields that are numbers -/

/-- The fields are numbers, one by one. -/
def AreNumbers (fields : Triple (List Char)) (t : Triple Nat) : Prop :=
  Denotes fields.first t.first ∧ Denotes fields.middle t.middle ∧ Denotes fields.last t.last

section

variable {cs : List Char} {fields : Triple (List Char)} {t : Triple Nat}

lemma AreNumbers.swap (h : AreNumbers fields t) : AreNumbers fields.swap t.swap :=
  ⟨h.2.2, h.2.1, h.1⟩

lemma traverse_eq_ok_iff_areNumbers (h : HasFields cs fields) :
    fields.traverse numeral = .ok t ↔ AreNumbers fields t := by
  obtain ⟨hfirst, hmiddle, hlast⟩ := h.ne_nil
  rw [traverse_eq_ok_iff, numeral_eq_ok_iff hfirst, numeral_eq_ok_iff hmiddle,
    numeral_eq_ok_iff hlast, AreNumbers]

/-- A text of three numbers is read by a calendar as the date with these numbers. -/
lemma read_of_areNumbers {s : String} (h : HasFields (Text.clean s.toList) fields)
    (ht : AreNumbers fields t) (c : Calendar) :
    Date.read c s = ReadError.ofDate (Date.ofYmd c t.toYmd) := by
  have hfields : yearFirst s.toList = .ok t.toYmd :=
    signedOfCleaned_eq_ok_iff.2 (.positive ⟨fields, h, ht⟩)
  rw [Date.read, dateOfChars, hfields]
  rfl

/-- The text of three fields with the given characters between them. -/
def Triple.joined (p q : Char) (fields : Triple (List Char)) : List Char :=
  fields.first ++ p :: (fields.middle ++ q :: fields.last)

lemma plain_of_isSeparator {c : Char} (h : isSeparator c) :
    Text.Plain c ∧ Text.isQuote c = false := by
  have hall : separators.all fun c => Text.Plain c ∧ Text.isQuote c = false := by decide
  exact List.all_iff_forall_prop.1 hall c (List.contains_iff_mem.1 h)

/-- Nothing in numbers that are joined by separators is changed by cleaning. -/
lemma clean_joined (ht : AreNumbers fields t) {p q : Char} (hp : isSeparator p)
    (hq : isSeparator q) : Text.clean (fields.joined p q) = fields.joined p q := by
  obtain ⟨hfirst, hmiddle, hlast⟩ := ht
  refine Text.clean_eq_self fun c hc => ?_
  simp only [Triple.joined, List.mem_append, List.mem_cons] at hc
  rcases hc with hc | rfl | hc | rfl | hc
  · exact Text.plain_of_isDigit (hfirst.isDigit_of_mem hc)
  · exact plain_of_isSeparator hp
  · exact Text.plain_of_isDigit (hmiddle.isDigit_of_mem hc)
  · exact plain_of_isSeparator hq
  · exact Text.plain_of_isDigit (hlast.isDigit_of_mem hc)

/-- Numbers that are joined by separators are the fields of the text. -/
lemma hasFields_joined (ht : AreNumbers fields t) {p q : Char} (hp : isSeparator p)
    (hq : isSeparator q) : HasFields (Text.clean (fields.joined p q)) fields := by
  rw [clean_joined ht hp hq]
  exact ⟨p, q, fields.first, fields.middle, fields.last, rfl, hp, hq, ht.1.isField, ht.2.1.isField,
    ht.2.2.isField⟩

end

/-! ### Where the year is -/

/-- The year is the first of the fields: as a Gregorian year it reaches the threshold, as a Jalali one
it has more digits than the day, and both stay below the threshold. -/
inductive YearLeads (threshold : Int) : Calendar → Triple (List Char) → Triple Nat → Prop
  | gregorian {fields : Triple (List Char)} {t : Triple Nat} (hyear : threshold ≤ t.first) :
      YearLeads threshold .gregorian fields t
  | jalali {fields : Triple (List Char)} {t : Triple Nat} (hyear : t.first < threshold)
      (hday : t.last < threshold) (hdigits : fields.last.length < fields.first.length) :
      YearLeads threshold .jalali fields t

section

variable {threshold : Int} {fields : Triple (List Char)} {t : Triple Nat} {c : Calendar} {f : Ymd}

lemma YearLeads.bounds (h : YearLeads threshold c fields t) :
    (c = .gregorian → threshold ≤ t.toYmd.year) ∧
      (c = .jalali → t.toYmd.year < threshold ∧ t.toYmd.day < threshold ∧
        fields.last.length < fields.first.length) := by
  cases h with
  | gregorian hyear => exact ⟨fun _ => hyear, nofun⟩
  | jalali hyear hday hdigits => exact ⟨nofun, fun _ => ⟨hyear, hday, hdigits⟩⟩

/-- The year is looked for in front, and then at the end. -/
lemma guess_eq_some_iff :
    guess threshold fields t = some (c, f) ↔
      YearLeads threshold c fields t ∧ f = t.toYmd ∨
        t.first < threshold ∧ YearLeads threshold c fields.swap t.swap ∧ f = t.swap.toYmd := by
  constructor
  · intro h
    simp only [guess] at h
    split at h
    · cases h
      exact Or.inl ⟨.gregorian ‹_›, rfl⟩
    rename_i hfirst
    have hfirst := Int.not_le.1 hfirst
    split at h
    · cases h
      exact Or.inr ⟨hfirst, .gregorian ‹_›, rfl⟩
    rename_i hlast
    have hlast := Int.not_le.1 hlast
    split at h
    · cases h
      exact Or.inl ⟨.jalali hfirst hlast ‹_›, rfl⟩
    split at h
    · cases h
      exact Or.inr ⟨hfirst, .jalali hlast hfirst ‹_›, rfl⟩
    · cases h
  · rintro (⟨hyear | ⟨hyear, hday, hdigits⟩, rfl⟩ | ⟨hfirst, hyear | ⟨hyear, hday, hdigits⟩, rfl⟩)
    · exact if_pos hyear
    · rw [guess, if_neg (Int.not_le.2 hyear), if_neg (Int.not_le.2 hday), if_pos hdigits]
    · rw [guess, if_neg (Int.not_le.2 hfirst)]
      exact if_pos hyear
    · have hlast : (t.last : Int) < threshold := hyear
      have hshorter : ¬fields.last.length < fields.first.length := Nat.lt_asymm hdigits
      rw [guess, if_neg (Int.not_le.2 hfirst), if_neg (Int.not_le.2 hlast), if_neg hshorter]
      exact if_pos hdigits

/-- Nothing tells the year from the day exactly if both are below the threshold and have equally many
digits. -/
lemma guess_eq_none_iff :
    guess threshold fields t = none ↔
      t.first < threshold ∧ t.last < threshold ∧ fields.first.length = fields.last.length := by
  simp only [guess]
  -- each of the four rules needs what the right side excludes
  split_ifs <;> simp only [false_iff, true_iff] <;> omega

end

/-! ### Texts of three numbers -/

section

variable {threshold : Int} {cs : List Char} {fields : Triple (List Char)} {t : Triple Nat}

lemma exists_of_looseFields {meant : Calendar × Ymd} (h : looseFields threshold cs = .ok meant) :
    ∃ fields t, HasFields (Text.clean cs) fields ∧ AreNumbers fields t ∧
      guess threshold fields t = some meant := by
  simp only [looseFields] at h
  split at h
  · cases h
  obtain ⟨fields, hsplit, h⟩ := bind_eq_ok.1 h
  obtain ⟨t, ht, h⟩ := bind_eq_ok.1 h
  have hfields := split_eq_ok_iff.1 hsplit
  refine ⟨fields, t, hfields, (traverse_eq_ok_iff_areNumbers hfields).1 ht, ?_⟩
  split at h
  · cases h
    assumption
  · cases h

/-- A text of three numbers is read as what is guessed, or is refused as ambiguous. -/
lemma looseFields_of_areNumbers (h : HasFields (Text.clean cs) fields) (ht : AreNumbers fields t) :
    looseFields threshold cs =
      match guess threshold fields t with
      | some meant => .ok meant
      | none => .error (.ambiguous (String.ofList (Text.clean cs))) := by
  have hne : Text.clean cs ≠ [] := by
    intro hnil
    rw [hnil] at h
    exact not_hasFields_nil fields h
  have htraverse := (traverse_eq_ok_iff_areNumbers h).2 ht
  simp only [looseFields, if_neg hne, split_eq_ok_iff.2 h]
  cases hguess : guess threshold fields t with
  | some meant =>
    exact bind_eq_ok.2 ⟨fields, rfl, bind_eq_ok.2 ⟨t, htraverse, by rw [hguess]; rfl⟩⟩
  | none =>
    refine bind_eq_error.2 (Or.inr ⟨fields, rfl, bind_eq_error.2 (Or.inr ⟨t, htraverse, ?_⟩)⟩)
    rw [hguess]
    rfl

/-- Where nothing tells the year from the day, the text is refused as ambiguous. -/
lemma looseFields_of_guess_eq_none (h : HasFields (Text.clean cs) fields) (ht : AreNumbers fields t)
    (hnone : guess threshold fields t = none) :
    looseFields threshold cs = .error (.ambiguous (String.ofList (Text.clean cs))) := by
  rw [looseFields_of_areNumbers h ht, hnone]

end

end PersianCalendar.Reading

namespace PersianCalendar

open Outcome Reading

/-! ### Dates of an unknown calendar -/

/-- A date that is read without knowing its calendar is one that the reader of its own calendar finds,
in the text itself or in its fields joined the other way round.  In this order the year is in front: a
Gregorian year reaches the threshold, a Jalali year has more digits than the day, and both stay below
it.  Three numbers with outer fields of equally many digits, both below the threshold, are refused as
ambiguous, whatever dates they could be.  In words of fixed width the readers are the same. -/
theorem loose_date_is_typed_date (threshold : Int) (s : String) :
    (∀ d, AnyDate.readLooseWith threshold s = .ok d →
      ∃ fields ordered t, HasFields (Text.clean s.toList) fields ∧
        AreNumbers ordered t ∧ d.ymd = t.toYmd ∧
        (ordered = fields ∧ Date.read d.calendar s = .ok d.date ∨
          ordered = fields.swap ∧ ∀ p q, isSeparator p → isSeparator q →
            Date.read d.calendar (String.ofList (ordered.joined p q)) = .ok d.date) ∧
        (d.calendar = .gregorian → threshold ≤ d.ymd.year) ∧
        (d.calendar = .jalali → d.ymd.year < threshold ∧ d.ymd.day < threshold ∧
          ordered.last.length < ordered.first.length)) ∧
    (∀ fields t, HasFields (Text.clean s.toList) fields → AreNumbers fields t →
      t.first < threshold → t.last < threshold → fields.first.length = fields.last.length →
      AnyDate.readLooseWith threshold s = .error (.ambiguous (Text.cleaned s))) ∧
    FixedWidth.Reading.looseWith threshold s =
      FixedWidth.Checked.ofExcept (AnyDate.readLooseWith threshold s) ∧
    ∀ c, FixedWidth.Reading.date c s = FixedWidth.Checked.ofExcept (Date.read c s) := by
  refine ⟨?_, ?_, FixedWidth.Reading.looseWith_eq threshold s,
    fun c => FixedWidth.Reading.date_eq c s⟩
  · intro d h
    obtain ⟨⟨c, f⟩, hmeant, hdate⟩ := bind_eq_ok.1 h
    obtain ⟨e, he, rfl⟩ := map_eq_ok.1 (mapError_eq_ok.1 hdate)
    obtain ⟨-, rfl⟩ := Date.ofYmd_eq_ok_iff.1 he
    obtain ⟨fields, t, hfields, ht, hguess⟩ := exists_of_looseFields hmeant
    rcases guess_eq_some_iff.1 hguess with ⟨hleads, hymd⟩ | ⟨-, hleads, hymd⟩
    · -- the text has the year in front
      rw [hymd] at he
      have hread := read_of_areNumbers hfields ht c
      rw [he] at hread
      have hbounds := hleads.bounds
      rw [← hymd] at hbounds
      exact ⟨fields, fields, t, hfields, ht, hymd, Or.inl ⟨rfl, hread⟩, hbounds⟩
    · -- the text has the year at the end, and the joined fields have it in front
      rw [hymd] at he
      have hbounds := hleads.bounds
      rw [← hymd] at hbounds
      refine ⟨fields, fields.swap, t.swap, hfields, ht.swap, hymd, Or.inr ⟨rfl, ?_⟩, hbounds⟩
      intro p q hp hq
      have hjoined := hasFields_joined ht.swap hp hq
      have hread := read_of_areNumbers (s := String.ofList (fields.swap.joined p q))
        (by rwa [String.toList_ofList]) ht.swap c
      rwa [he] at hread
  · intro fields t hfields ht hfirst hlast hlength
    have hnone := guess_eq_none_iff.2 ⟨hfirst, hlast, hlength⟩
    exact bind_eq_error.2 (Or.inl (looseFields_of_guess_eq_none hfields ht hnone))

/-- A date with the year at the end, which is read with its fields the other way round, and a text that
only one of its two readings would make a date. -/
theorem loose_date_is_typed_date_reversed :
    AnyDate.readLooseWith 1700 "5.01.1403" = .ok ⟨.jalali, ⟨⟨1403, 1, 5⟩⟩⟩ ∧
    Date.read .jalali "1403/01-5" = .ok ⟨⟨1403, 1, 5⟩⟩ ∧
    Date.read .jalali "32/01/05" = .ok ⟨⟨32, 1, 5⟩⟩ ∧
    Date.read .jalali "05/01/32" = .error (.date (.noSuchDate .jalali ⟨5, 1, 32⟩)) ∧
    AnyDate.readLooseWith 1700 "32/01/05" = .error (.ambiguous "32/01/05") := by
  have hloose : AnyDate.readLooseWith 1700 "5.01.1403" = .ok ⟨.jalali, ⟨⟨1403, 1, 5⟩⟩⟩ := rfl
  have hsplit : split (Text.clean "32/01/05".toList) = .ok ⟨['3', '2'], ['0', '1'], ['0', '5']⟩ := rfl
  have hfields := split_eq_ok_iff.1 hsplit
  have hnumbers : AreNumbers ⟨['3', '2'], ['0', '1'], ['0', '5']⟩ ⟨32, 1, 5⟩ :=
    (traverse_eq_ok_iff_areNumbers hfields).1 rfl
  refine ⟨hloose, ?_, rfl, rfl, ?_⟩
  · obtain ⟨fields, ordered, t, hreversed, -, -, hdate, -, -⟩ :=
      (loose_date_is_typed_date 1700 "5.01.1403").1 _ hloose
    rcases hdate with ⟨-, hdate⟩ | ⟨rfl, hdate⟩
    · -- in the text itself the day would be 1403
      cases hdate
    · have hthree : split (Text.clean "5.01.1403".toList) =
          .ok ⟨['5'], ['0', '1'], ['1', '4', '0', '3']⟩ := rfl
      rw [split_eq_ok_iff.2 hreversed] at hthree
      cases hthree
      exact hdate '/' '-' (by decide) (by decide)
  · exact (loose_date_is_typed_date 1700 "32/01/05").2.1 _ _ hfields hnumbers (by decide)
      (by decide) rfl

end PersianCalendar
