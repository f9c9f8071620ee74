import PersianCalendar.Proofs.FixedWidth.Date

/-!
# The day after a day

Day numbers are counted on by one from each day to the next, and the fields of the dates are counted
on by the lengths of the months.  Both counts go over the same dates, in either calendar.
-/

namespace PersianCalendar

open FixedWidth (Checked)

variable {c : Calendar}

lemma Date.toYmd_eq_next {n : Int} {d e : Date c} (hd : Date.ofDayNumber c n = .ok d)
    (he : Date.ofDayNumber c (n + 1) = .ok e) :
    e.toYmd = d.toYmd.next (c.monthLength d.year d.month) := by
  obtain ⟨⟨hds, hdday⟩, rfl⟩ := Date.ofDayNumber_eq_ok_iff.1 hd
  obtain ⟨⟨hes, heday⟩, hn⟩ := Date.ofDayNumber_eq_ok_iff.1 he
  exact Calendar.eq_next hdday heday (.of_supports hds) (.of_supports hes) hn

/-- A month of a supported Jalali year has the length that `Calendar.monthLength` says. -/
lemma Jalali.daysInMonth_eq_ok {year month : Int} (h : Supported year)
    (hmonth : 1 ≤ month ∧ month ≤ 12) :
    daysInMonth year month = .ok (Calendar.jalali.monthLength year month) := by
  rw [daysInMonth, if_pos hmonth, YearStart.ofYear_of_supported h]
  rfl

/-- The dates of two consecutive day numbers are consecutive in the calendar: the day is counted on to
the end of the month, the month to the end of the year. -/
theorem ofDayNumber_next :
    (∀ n (d e : Date .gregorian),
      Date.ofDayNumber .gregorian n = .ok d → Date.ofDayNumber .gregorian (n + 1) = .ok e →
      ∃ length, FixedWidth.Gregorian.monthLength d.year d.month = .ok length ∧
        e.toYmd = d.toYmd.next length) ∧
    (∀ n (d e : Date .jalali),
      Date.ofDayNumber .jalali n = .ok d → Date.ofDayNumber .jalali (n + 1) = .ok e →
      ∃ length, Jalali.daysInMonth d.year d.month = .ok length ∧
        e.toYmd = d.toYmd.next length) ∧
    (∀ c n, Width.signed64.Holds n →
      FixedWidth.Date.ofDayNumber c n = Checked.ofExcept (Date.ofDayNumber c n)) := by
  refine ⟨?_, ?_, ?_⟩
  · intro n d e hd he
    obtain ⟨hvalid, -⟩ := Date.ofDayNumber_eq_ok_iff.1 hd
    exact ⟨_, FixedWidth.Gregorian.monthLength_eq_ok d.year hvalid.2.1, Date.toYmd_eq_next hd he⟩
  · intro n d e hd he
    obtain ⟨hvalid, -⟩ := Date.ofDayNumber_eq_ok_iff.1 hd
    exact ⟨_, Jalali.daysInMonth_eq_ok hvalid.1 hvalid.2.1, Date.toYmd_eq_next hd he⟩
  · intro c n hn
    exact FixedWidth.Date.ofDayNumber_eq c hn

/-- From 29 February 2000 and from 30 Esfand 1403 a month and a year are left behind. -/
theorem ofDayNumber_next_leap_day :
    (∃ length, FixedWidth.Gregorian.monthLength 2000 2 = .ok length ∧
      (⟨2000, 3, 1⟩ : Ymd) = Ymd.next length ⟨2000, 2, 29⟩) ∧
    (∃ length, Jalali.daysInMonth 1403 12 = .ok length ∧
      (⟨1404, 1, 1⟩ : Ymd) = Ymd.next length ⟨1403, 12, 30⟩) ∧
    FixedWidth.Date.ofDayNumber .jalali 2460756 = Checked.ofExcept (.ok ⟨⟨1404, 1, 1⟩⟩) := by
  obtain ⟨hgregorian, hjalali, hwords⟩ := ofDayNumber_next
  have hfebruary : Date.ofDayNumber .gregorian 2451604 = .ok ⟨⟨2000, 2, 29⟩⟩ := rfl
  have hmarch : Date.ofDayNumber .gregorian 2451605 = .ok ⟨⟨2000, 3, 1⟩⟩ := rfl
  have hesfand : Date.ofDayNumber .jalali 2460755 = .ok ⟨⟨1403, 12, 30⟩⟩ := rfl
  have hfarvardin : Date.ofDayNumber .jalali 2460756 = .ok ⟨⟨1404, 1, 1⟩⟩ := rfl
  refine ⟨hgregorian _ _ _ hfebruary hmarch, hjalali _ _ _ hesfand hfarvardin, ?_⟩
  rw [hwords .jalali 2460756 (by decide), hfarvardin]

end PersianCalendar
