import PersianCalendar.Proofs.Date.Conversion
import PersianCalendar.Walk

/-!
# Walks stay among the valid dates

A date that is built from fields, found for a day number or read from a text is valid, whatever it is
built from.  So each move of a walk leads from a valid date to a valid one (`Move.valid_of_apply`),
and a walk never leaves them (`valid_walk`).
-/

namespace PersianCalendar

open Outcome

/-! ### Dates of one calendar -/

namespace Date

variable {c : Calendar} {d : Date c}

lemma valid_of_ofYmd {f : Ymd} (h : ofYmd c f = .ok d) : d.Valid :=
  (ofYmd_eq_ok_iff.1 h).1

lemma valid_of_ofDayNumber {n : Int} (h : ofDayNumber c n = .ok d) : d.Valid :=
  (ofDayNumber_eq_ok_iff.1 h).1

lemma valid_of_addDays {e : Date c} {days : Int} (h : e.addDays days = .ok d) : d.Valid := by
  simp only [addDays] at h
  split at h
  · exact valid_of_ofDayNumber h
  · cases h

lemma valid_of_read {s : String} (h : read c s = .ok d) : d.Valid := by
  obtain ⟨f, -, hd⟩ := Reading.dateOfChars_eq_ok_iff.1 h
  exact valid_of_ofYmd hd

end Date

/-! ### Dates with their calendar -/

namespace AnyDate

variable {d e : AnyDate} {c : Calendar}

lemma valid_of_ofYmd {f : Ymd} (h : ofYmd c f = .ok d) : d.Valid := by
  obtain ⟨e, he, rfl⟩ := map_eq_ok.1 h
  exact Date.valid_of_ofYmd he

lemma valid_of_ofDayNumber {n : Int} (h : ofDayNumber c n = .ok d) : d.Valid := by
  obtain ⟨e, he, rfl⟩ := map_eq_ok.1 h
  exact Date.valid_of_ofDayNumber he

lemma valid_of_addDays {days : Int} (h : e.addDays days = .ok d) : d.Valid := by
  obtain ⟨f, hf, rfl⟩ := map_eq_ok.1 h
  exact Date.valid_of_addDays hf

lemma valid_of_toJalali {j : Date .jalali} (hd : d.Valid) (h : d.toJalali = .ok j) : j.Valid := by
  obtain ⟨c, d⟩ := d
  cases c with
  | jalali =>
    cases h
    exact hd
  | gregorian => exact Date.valid_of_ofDayNumber h

lemma valid_toGregorian (hd : d.Valid) : d.toGregorian.Valid := by
  obtain ⟨c, d⟩ := d
  cases c with
  | jalali => exact Date.valid_toGregorian hd
  | gregorian => exact hd

lemma valid_of_readTagged {s : String} (h : readTagged s = .ok d) : d.Valid := by
  obtain ⟨fields, -, hd⟩ := bind_eq_ok.1 h
  exact valid_of_ofYmd (ReadError.ofDate_eq_ok_iff.1 hd)

lemma valid_of_readLooseWith {threshold : Int} {s : String}
    (h : readLooseWith threshold s = .ok d) : d.Valid := by
  obtain ⟨meant, -, hd⟩ := bind_eq_ok.1 h
  exact valid_of_ofYmd (ReadError.ofDate_eq_ok_iff.1 hd)

end AnyDate

/-! ### Moves and walks -/

variable {d e : AnyDate} {m : Move}

/-- A move that does not fail leads from a valid date to a valid one. -/
lemma Move.valid_of_apply (hd : d.Valid) (h : m.apply d = .ok e) : e.Valid := by
  -- only the conversions ask that the date before is valid, the other moves build theirs anew
  cases m with
  | addDays days =>
    rw [apply, mapError_eq_ok] at h
    exact AnyDate.valid_of_addDays h
  | toJalali =>
    rw [apply, mapError_eq_ok, map_eq_ok] at h
    obtain ⟨j, hj, rfl⟩ := h
    exact AnyDate.valid_of_toJalali hd hj
  | toGregorian =>
    cases h
    exact AnyDate.valid_toGregorian hd
  | toYmd f =>
    rw [apply, mapError_eq_ok] at h
    exact AnyDate.valid_of_ofYmd h
  | toDay n =>
    rw [apply, mapError_eq_ok] at h
    exact AnyDate.valid_of_ofDayNumber h
  | toText s =>
    rw [apply, mapError_eq_ok, map_eq_ok] at h
    obtain ⟨f, hf, rfl⟩ := h
    exact Date.valid_of_read hf
  | toTagged s =>
    rw [apply, mapError_eq_ok] at h
    exact AnyDate.valid_of_readTagged h
  | toLoose threshold s =>
    rw [apply, mapError_eq_ok] at h
    exact AnyDate.valid_of_readLooseWith h

lemma Move.valid_next (m : Move) (hd : d.Valid) : (m.next d).Valid := by
  rw [Move.next]
  split
  · exact Move.valid_of_apply hd ‹_›
  · exact hd

lemma valid_walk (moves : List Move) (hd : d.Valid) : (walk d moves).Valid := by
  induction moves generalizing d with
  | nil => exact hd
  | cons m moves ih => exact ih (m.valid_next hd)

end PersianCalendar
