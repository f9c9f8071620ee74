import PersianCalendar.FixedWidth.Walk
import PersianCalendar.Proofs.Date.NextDay
import PersianCalendar.Proofs.Date.Walk
import PersianCalendar.Proofs.FixedWidth.Reading

/-!
# Walks in words of fixed width

A move from a valid date gives in words what it gives in exact integers (`FixedWidth.Move.apply_eq`),
and leads to a valid date, from which the next move starts.  So no walk comes to a fault
(`FixedWidth.walk_eq_ok`), and each ends at a date that its own fields build again
(`walk_ends_at_date`).
-/

namespace PersianCalendar

/-- The numbers of a move have the widths of their words. -/
def Move.Fits : Move → Prop
  | addDays days => Width.signed64.Holds days
  | toJalali => True
  | toGregorian => True
  | toYmd f => f.Fits32
  | toDay n => Width.signed64.Holds n
  | toText _ => True
  | toTagged _ => True
  | toLoose threshold _ => Width.signed32.Holds threshold

instance : (m : Move) → Decidable m.Fits
  | .addDays days => inferInstanceAs (Decidable (Width.signed64.Holds days))
  | .toJalali => .isTrue trivial
  | .toGregorian => .isTrue trivial
  | .toYmd f => inferInstanceAs (Decidable f.Fits32)
  | .toDay n => inferInstanceAs (Decidable (Width.signed64.Holds n))
  | .toText _ => .isTrue trivial
  | .toTagged _ => .isTrue trivial
  | .toLoose threshold _ => inferInstanceAs (Decidable (Width.signed32.Holds threshold))

namespace FixedWidth

variable {d : PersianCalendar.AnyDate}

namespace AnyDate

lemma toJalali_eq (h : d.Valid) : toJalali d = Checked.ofExcept d.toJalali := by
  obtain ⟨c, d⟩ := d
  cases c with
  | jalali => rfl
  | gregorian => exact Date.convert_eq h

lemma toGregorian_eq_ok (h : d.Valid) : toGregorian d = .ok d.toGregorian := by
  obtain ⟨c, d⟩ := d
  cases c with
  | jalali => exact Date.toGregorian_eq_ok h
  | gregorian => rfl

end AnyDate

/-! ### Moves -/

namespace Move

/-- From a valid date a move gives in words what it gives in exact integers. -/
lemma apply_eq {m : PersianCalendar.Move} (hd : d.Valid) (hm : m.Fits) :
    apply d m = Checked.ofExcept (m.apply d) := by
  cases m with
  | addDays days =>
    simp [apply, Date.addDays_eq hd, PersianCalendar.Move.apply, AnyDate.addDays]
  | toJalali =>
    simp [apply, AnyDate.toJalali_eq hd, PersianCalendar.Move.apply]
  | toGregorian =>
    simp [apply, AnyDate.toGregorian_eq_ok hd, PersianCalendar.Move.apply]
  | toYmd f =>
    simp [apply, Reading.anyDate_eq d.calendar hm.1, PersianCalendar.Move.apply]
  | toDay n =>
    simp [apply, Date.ofDayNumber_eq d.calendar hm, PersianCalendar.Move.apply, AnyDate.ofDayNumber]
  | toText s =>
    simp [apply, PersianCalendar.Move.apply]
  | toTagged s =>
    simp [apply, PersianCalendar.Move.apply]
  | toLoose threshold s =>
    simp [apply, PersianCalendar.Move.apply]

lemma next_eq_ok {m : PersianCalendar.Move} (hd : d.Valid) (hm : m.Fits) :
    next d m = .ok (m.next d) := by
  rw [next, apply_eq hd hm, PersianCalendar.Move.next]
  cases m.apply d <;> rfl

end Move

/-! ### Walks -/

/-- No walk comes to a fault: each of its moves starts at a valid date. -/
lemma walk_eq_ok {moves : List PersianCalendar.Move} (hd : d.Valid) (h : ∀ m ∈ moves, m.Fits) :
    walk d moves = .ok (PersianCalendar.walk d moves) := by
  -- what carries the induction is that the exact walk stays among the valid dates
  induction moves generalizing d with
  | nil => rfl
  | cons m moves ih =>
    have hm : m.Fits := h m List.mem_cons_self
    have hmoves : ∀ m ∈ moves, m.Fits := fun m hm => h m (List.mem_cons_of_mem _ hm)
    rw [walk, List.foldlM_cons, Move.next_eq_ok hd hm, ok_bind]
    exact ih (m.valid_next hd) hmoves

end FixedWidth

/-! ### Where walks end -/

open FixedWidth (Checked)

lemma AnyDate.jalali_of_valid {e : AnyDate} (h : e.Valid) (hc : e.calendar = .jalali) :
    (-61 ≤ e.ymd.year ∧ e.ymd.year ≤ 3177) ∧
      Jalali.daysInMonth e.ymd.year e.ymd.month =
        .ok (e.calendar.monthLength e.ymd.year e.ymd.month) := by
  obtain ⟨_, e⟩ := e
  subst hc
  exact ⟨h.1, Jalali.daysInMonth_eq_ok h.1 h.2.1⟩

lemma AnyDate.gregorian_of_valid {e : AnyDate} (h : e.Valid) (hc : e.calendar = .gregorian) :
    Width.signed32.Holds e.ymd.year ∧
      FixedWidth.Gregorian.monthLength e.ymd.year e.ymd.month =
        .ok (e.calendar.monthLength e.ymd.year e.ymd.month) := by
  obtain ⟨_, e⟩ := e
  subst hc
  exact ⟨h.1, FixedWidth.Gregorian.monthLength_eq_ok e.year h.2.1⟩

/-- Wherever a walk comes to, it stands at a date: the fields are those of a month and a day that the
year has, in a supported year, and the date is built again from them.  With words of fixed width the
walk comes to the same date. -/
theorem walk_ends_at_date {c : Calendar} {f : Ymd} {d : AnyDate} (h : AnyDate.ofYmd c f = .ok d)
    (moves : List Move) :
    ∃ e, walk d moves = e ∧
      AnyDate.ofYmd e.calendar e.ymd = .ok e ∧
      (1 ≤ e.ymd.month ∧ e.ymd.month ≤ 12) ∧
      (1 ≤ e.ymd.day ∧ e.ymd.day ≤ e.calendar.monthLength e.ymd.year e.ymd.month) ∧
      (e.calendar = .jalali → (-61 ≤ e.ymd.year ∧ e.ymd.year ≤ 3177) ∧
        Jalali.daysInMonth e.ymd.year e.ymd.month =
          .ok (e.calendar.monthLength e.ymd.year e.ymd.month)) ∧
      (e.calendar = .gregorian → Width.signed32.Holds e.ymd.year ∧
        FixedWidth.Gregorian.monthLength e.ymd.year e.ymd.month =
          .ok (e.calendar.monthLength e.ymd.year e.ymd.month)) ∧
      (f.Fits32 → (∀ m ∈ moves, m.Fits) →
        FixedWidth.Reading.anyDate c f = Checked.ofExcept (.ok d) ∧
        FixedWidth.walk d moves = .ok e ∧
        FixedWidth.Reading.anyDate e.calendar e.ymd = Checked.ofExcept (.ok e)) := by
  have hd : d.Valid := AnyDate.valid_of_ofYmd h
  have he : (walk d moves).Valid := valid_walk moves hd
  have hrebuilt := AnyDate.ofYmd_ymd he
  refine ⟨_, rfl, hrebuilt, he.2.1, he.2.2, AnyDate.jalali_of_valid he,
    AnyDate.gregorian_of_valid he, ?_⟩
  intro hf hm
  have hyear : Width.signed32.Holds (walk d moves).ymd.year := he.fits32.1
  have hfirst := FixedWidth.Reading.anyDate_eq c hf.1
  have hlast := FixedWidth.Reading.anyDate_eq (walk d moves).calendar hyear
  rw [h] at hfirst
  rw [hrebuilt] at hlast
  exact ⟨hfirst, FixedWidth.walk_eq_ok hd hm, hlast⟩

/-- A walk from the last day of the Jalali year 1403 over the first day of the next, with a move that
fails, and back. -/
theorem walk_ends_at_date_leap_day :
    walk ⟨.gregorian, ⟨⟨2025, 3, 20⟩⟩⟩
        [.toJalali, .addDays 1, .toYmd ⟨1404, 12, 30⟩, .toLoose 1700 "30-12-1403"] =
      ⟨.jalali, ⟨⟨1403, 12, 30⟩⟩⟩ ∧
    AnyDate.ofYmd .jalali ⟨1403, 12, 30⟩ = .ok ⟨.jalali, ⟨⟨1403, 12, 30⟩⟩⟩ ∧
    Jalali.daysInMonth 1403 12 = .ok 30 ∧
    FixedWidth.walk ⟨.gregorian, ⟨⟨2025, 3, 20⟩⟩⟩
        [.toJalali, .addDays 1, .toYmd ⟨1404, 12, 30⟩, .toLoose 1700 "30-12-1403"] =
      .ok ⟨.jalali, ⟨⟨1403, 12, 30⟩⟩⟩ := by
  have hfirst : AnyDate.ofYmd .gregorian ⟨2025, 3, 20⟩ = .ok ⟨.gregorian, ⟨⟨2025, 3, 20⟩⟩⟩ := rfl
  obtain ⟨e, he, hrebuilt, -, -, hjalali, -, hwords⟩ := walk_ends_at_date hfirst
    [.toJalali, .addDays 1, .toYmd ⟨1404, 12, 30⟩, .toLoose 1700 "30-12-1403"]
  have hend : e = ⟨.jalali, ⟨⟨1403, 12, 30⟩⟩⟩ := he.symm.trans rfl
  subst hend
  exact ⟨he, hrebuilt, (hjalali rfl).2, (hwords (by decide) (by decide)).2.1⟩

end PersianCalendar
