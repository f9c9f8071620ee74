import PersianCalendar.Proofs.Date.DayNumber
import PersianCalendar.Proofs.FixedWidth.Jalali
import PersianCalendar.Proofs.Outcome

/-!
# Day numbers of 64 bits split into Gregorian fields

The steps of `dayNumber` are those of one formula, whose exact value they keep wherever they fit
(`eq_exactDayNumber_of_eq_ok`).  For every day number but the last ones of the word the steps of
`ofDayNumber` fit, and the fields they lead to are the only ones of an existing day for which the
formula gives that number (`hasDay_and_exactDayNumber_eq_iff`).
-/

namespace PersianCalendar.FixedWidth.Gregorian

open Outcome

variable {year month day n : Int}

/-! ### The formula -/

/-- The formula of `dayNumber` in exact integers. -/
def exactDayNumber (year month day : Int) : Int :=
  let carry := (14 - month) / 12
  let year := year + 4800 - carry
  let month := month + 12 * carry - 3
  day + (153 * month + 2) / 5 + 365 * year + year / 4 - year / 100 + year / 400 - 32045

lemma exactDayNumber_eq (year month day : Int) :
    exactDayNumber year month day = PersianCalendar.Gregorian.dayNumber year month day :=
  (dayNumber_by_carry rfl).symm

/-- Steps that fit lead to the value of the formula. -/
lemma eq_exactDayNumber_of_eq_ok {k : Int} (h : dayNumber year month day = .ok k) :
    k = exactDayNumber year month day := by
  -- each step is bounded and handed on, and the last one gives the result
  simp only [dayNumber, bind_eq_ok, step_eq_ok_iff, and_assoc, exists_and_left, exists_eq_left'] at h
  obtain ⟨-, -, -, -, -, -, -, -, -, -, -, -, -, -, -, hk⟩ := h
  exact hk.symm

/-! ### The fields of a day number -/

/-- The fields found are the only ones of an existing day with the day number. -/
lemma hasDay_and_exactDayNumber_eq_iff {g : Ymd} :
    Calendar.gregorian.HasDay g ∧ exactDayNumber g.year g.month g.day = n ↔
      g = PersianCalendar.Gregorian.ofDayNumber n := by
  have hday := PersianCalendar.Date.hasDay_gregorian n
  have hn := PersianCalendar.Gregorian.dayNumber_ofDayNumber n
  simp only [exactDayNumber_eq]
  constructor
  · rintro ⟨hg, heq⟩
    exact Calendar.eq_of_dayNumber_eq hg hday trivial trivial (heq.trans hn.symm)
  · rintro rfl
    exact ⟨hday, hn⟩

/-- The sum with which the split begins does not fit for the last day numbers. -/
lemma ofDayNumber_of_gt (h : Width.signed64.greatest - shift < n) :
    ofDayNumber n = .error (.overflow .signed64) := by
  have hnot : ¬Width.signed64.Holds (n + shift) := by
    rintro ⟨-, hle⟩
    omega
  exact bind_eq_error.2 (Or.inl (step_of_not_holds hnot))

lemma ofDayNumber?_eq_none_iff (h : Width.signed64.Holds n) :
    ofDayNumber? n = .ok none ↔ Width.signed64.greatest - shift < n := by
  have hlast : Width.signed64.greatest - shift = lastDayNumber := rfl
  rw [ofDayNumber?_eq_ok h, hlast]
  split
  · simp only [*]
  · simp only [*, Except.ok.injEq, reduceCtorEq]

/-- The day numbers of 64 bits that are not split are the last 32044 of them, for which the split would
fault with its first sum.  For every other one no step faults, and the fields found are in 64 bits and
are the only ones, of any year there is, of an existing day for which the formula of `dayNumber` gives
the day number. -/
theorem day_numbers_split_exactly (n : Int) (h : Width.signed64.Holds n) :
    (ofDayNumber? n = .ok none ↔ Width.signed64.greatest - 32044 < n) ∧
    (Width.signed64.greatest - 32044 < n → ofDayNumber n = .error (.overflow .signed64)) ∧
    (n ≤ Width.signed64.greatest - 32044 →
      ∃ f, ofDayNumber n = .ok f ∧ ofDayNumber? n = .ok (some f) ∧ Width.signed64.Holds f.year ∧
        ∀ g, Calendar.gregorian.HasDay g ∧ exactDayNumber g.year g.month g.day = n ↔ g = f) ∧
    ∀ year month day k, dayNumber year month day = .ok k → k = exactDayNumber year month day := by
  refine ⟨ofDayNumber?_eq_none_iff h, ofDayNumber_of_gt, fun hle => ?_,
    fun year month day k => eq_exactDayNumber_of_eq_ok⟩
  have hlast : ¬lastDayNumber < n := Int.not_lt.2 hle
  have hfound : ofDayNumber? n = .ok (some (PersianCalendar.Gregorian.ofDayNumber n)) := by
    rw [ofDayNumber?_eq_ok h, if_neg hlast]
  have hyear := Jalali.gregorianYear_range h
  have hholds : Width.signed64.Holds (PersianCalendar.Gregorian.ofDayNumber n).year :=
    ⟨Int.le_trans (by decide) hyear.1, Int.le_trans hyear.2 (by decide)⟩
  exact ⟨_, ofDayNumber_eq_ok h.1 hle, hfound, hholds, fun g => hasDay_and_exactDayNumber_eq_iff⟩

/-- The first day number of 64 bits, the last one that is split, the one behind it, and an everyday
one. -/
theorem day_numbers_split_exactly_ends :
    ofDayNumber (-9223372036854775808) = .ok ⟨-25252734927771267, 4, 30⟩ ∧
    ofDayNumber 9223372036854743763 = .ok ⟨25252734927761754, 9, 25⟩ ∧
    exactDayNumber 25252734927761754 9 25 = 9223372036854743763 ∧
    ofDayNumber? 9223372036854743764 = .ok none ∧
    ofDayNumber 9223372036854743764 = .error (.overflow .signed64) ∧
    dayNumber 1970 1 1 = .ok 2440588 ∧ 2440588 = exactDayNumber 1970 1 1 := by
  obtain ⟨f, hf, -, -, hfirst⟩ :=
    (day_numbers_split_exactly (-9223372036854775808) (by decide)).2.2.1 (by decide)
  obtain ⟨g, hg, -, -, hlast⟩ :=
    (day_numbers_split_exactly 9223372036854743763 (by decide)).2.2.1 (by decide)
  have hout := day_numbers_split_exactly 9223372036854743764 (by decide)
  -- no other fields have the day number, so these are the ones found
  have hff : ⟨-25252734927771267, 4, 30⟩ = f := (hfirst _).1 ⟨by decide, by decide⟩
  have hgg : ⟨25252734927761754, 9, 25⟩ = g := (hlast _).1 ⟨by decide, by decide⟩
  rw [hff, hgg]
  exact ⟨hf, hg, rfl, hout.1.2 (by decide), hout.2.1 (by decide), rfl,
    hout.2.2.2 1970 1 1 _ rfl⟩

end PersianCalendar.FixedWidth.Gregorian
