import Mathlib.Data.Finset.Card
import Mathlib.Data.Int.Range
import PersianCalendar.Proofs.Date.DayNumber
import PersianCalendar.Proofs.FixedWidth.YearStart
import PersianCalendar.Proofs.Outcome

/-!
# Leap years of the Jalali calendar

The leap years of a run and the first days of its years come from two formulas over the same breaks.
They agree over any span of years: a span has 365 days for each of its years and one for each of its
leap years (`firstOf_sub`).  Leap years follow one another after four or five years, from run to run
as inside one (`sub_of_consecutive_leap`).
-/

namespace PersianCalendar.Jalali

open FixedWidth (Checked)
open Outcome

/-! ### From leap year to leap year in a run -/

namespace Run

variable {r : Run} {year : Int}

/-- The place of a year in its cycle, some years later. -/
lemma mod_add (n : Int) {k : Int} (hk : 0 ≤ k ∧ k < 33) :
    (n + k) % 33 = n % 33 + k ∨ (n + k) % 33 = n % 33 + k - 33 := by
  omega

/-- The leap years of a cycle have the places 0, 4, 8 and so on up to 28. -/
lemma isLeap_iff_place (hlast : ¬r.next - year < 6) :
    r.IsLeap year ↔ (year - r.first) % 33 % 4 = 0 ∧ (year - r.first) % 33 < 32 := by
  have hnext := mod_add (year - r.first) (k := 1) (by decide)
  rw [isLeap_iff_of_not_last hlast]
  omega

lemma isLeap_first (hr : r.Regular) : r.IsLeap r.first := by
  have hlong := hr.1
  simp only [length] at hlong
  rw [isLeap_iff_place (by omega)]
  omega

/-- A leap year has at least four years of its run after it. -/
lemma add_five_le_of_isLeap (hnext : year < r.next) (h : r.IsLeap year) : year + 5 ≤ r.next := by
  by_cases hlast : r.next - year < 6
  · rw [isLeap_iff_of_last hnext hlast] at h
    omega
  · omega

/-- None of the three years after a leap year is leap. -/
lemma not_isLeap_of_lt_four (hr : r.Regular) (hnext : year < r.next) (h : r.IsLeap year) {k : Int}
    (hk : 0 < k ∧ k < 4) : ¬r.IsLeap (year + k) := by
  have hroom := add_five_le_of_isLeap hnext h
  by_cases hlast : r.next - (year + k) < 6
  · rw [isLeap_iff_of_last (by omega) hlast]
    intro hfive
    -- five years before the end of a run a leap year is due, so none comes shortly before
    rw [isLeap_iff_place (by omega)] at h
    have hlen := hr.2
    rw [length, show r.next - r.first = year - r.first + (k + 5) by omega] at hlen
    have hend := mod_add (year - r.first) (k := k + 5) (by omega)
    omega
  · rw [isLeap_iff_place (by omega)] at h
    rw [isLeap_iff_place hlast, show year + k - r.first = year - r.first + k by omega]
    have hplace := mod_add (year - r.first) (k := k) (by omega)
    omega

/-- Of the fourth and the fifth year after a leap year one is leap, as long as the run goes on. -/
lemma isLeap_four_or_five (hr : r.Regular) (hnext : year + 5 < r.next) (h : r.IsLeap year) :
    r.IsLeap (year + 4) ∨ r.IsLeap (year + 5) := by
  rw [isLeap_iff_place (by omega)] at h
  have hlen := hr.2
  rw [length, show r.next - r.first = year - r.first + (r.next - year) by omega] at hlen
  by_cases hlast : r.next - (year + 5) < 6
  · have hend := mod_add (year - r.first) (k := r.next - year) (by omega)
    rw [isLeap_iff_of_last hnext hlast]
    by_cases hlast' : r.next - (year + 4) < 6
    · rw [isLeap_iff_of_last (by omega) hlast']
      omega
    · rw [isLeap_iff_place hlast', show year + 4 - r.first = year - r.first + 4 by omega]
      have hplace := mod_add (year - r.first) (k := 4) (by decide)
      omega
  · rw [isLeap_iff_place (by omega), isLeap_iff_place hlast,
      show year + 4 - r.first = year - r.first + 4 by omega,
      show year + 5 - r.first = year - r.first + 5 by omega]
    have hfour := mod_add (year - r.first) (k := 4) (by decide)
    have hfive := mod_add (year - r.first) (k := 5) (by decide)
    omega

end Run

/-! ### The leap years of the table -/

section

variable {year : Int} {r : Run}

lemma isLeapYear_eq_true_iff :
    isLeapYear year = .ok true ↔ ∃ r, run? year = some r ∧ r.IsLeap year := by
  cases h : run? year with
  | none => simp [isLeapYear, YearStart.ofYear, h]
  | some r => simp [isLeapYear, YearStart.ofYear, YearStart.ofRun, h]

lemma isLeapYear_iff_approximate (h : Supported year) :
    isLeapYear year = .ok true ↔ (YearStart.approximate year).isLeap = true := by
  simp only [isLeapYear, YearStart.ofYear_of_supported h, Except.map, Except.ok.injEq]

lemma supported_of_isLeapYear (h : isLeapYear year = .ok true) : Supported year := by
  obtain ⟨r, hr, -⟩ := isLeapYear_eq_true_iff.1 h
  exact supported_of_run?_eq_some hr

/-- The years up to the end of a run lie in it. -/
lemma run?_of_lt_next {later : Int} (h : run? year = some r) (hle : year ≤ later)
    (hlt : later < r.next) : run? later = some r := by
  obtain ⟨hmem, hfirst, hnext⟩ := mem_runs h
  have hrange : ∀ r ∈ runs, -61 ≤ r.first ∧ r.next ≤ 3178 := by decide
  have hlater : Supported later := by
    have hr := hrange r hmem
    exact ⟨show -61 ≤ later by omega, show later ≤ 3177 by omega⟩
  obtain ⟨r', hr'⟩ := exists_run hlater
  obtain ⟨hmem', hfirst', hnext'⟩ := mem_runs hr'
  rw [hr', eq_of_mem r hmem r' hmem' (by omega) (by omega)]

/-- The first year after a run is the first year of the next one. -/
lemma isLeapYear_next (h : run? year = some r) (hnext : Supported r.next) :
    isLeapYear r.next = .ok true := by
  obtain ⟨r', hr'⟩ := exists_run hnext
  obtain ⟨hmem, -, -⟩ := mem_runs h
  obtain ⟨hmem', hfirst', hnext'⟩ := mem_runs hr'
  have hstart : r'.first = r.next := (follows_of_mem r hmem r' hmem' hfirst' hnext').1
  refine isLeapYear_eq_true_iff.2 ⟨r', hr', ?_⟩
  rw [← hstart]
  exact Run.isLeap_first (regular_of_mem r' hmem')

/-- From one leap year to the next it takes four or five years. -/
lemma sub_of_consecutive_leap {next : Int} (h : isLeapYear year = .ok true)
    (hnext : isLeapYear next = .ok true) (hlt : year < next)
    (hnone : ∀ between, year < between → between < next → isLeapYear between ≠ .ok true) :
    next - year = 4 ∨ next - year = 5 := by
  obtain ⟨r, hr, hleap⟩ := isLeapYear_eq_true_iff.1 h
  obtain ⟨hmem, -, hyear⟩ := mem_runs hr
  have hregular := regular_of_mem r hmem
  have hroom := Run.add_five_le_of_isLeap hyear hleap
  have hin : ∀ k, 0 ≤ k → year + k < r.next →
      (isLeapYear (year + k) = .ok true ↔ r.IsLeap (year + k)) := by
    intro k hk hlt
    rw [isLeapYear_eq_true_iff, run?_of_lt_next hr (by omega) hlt]
    simp only [Option.some.injEq, exists_eq_left']
  -- the next leap year is not among the first three years
  have hfour : 4 ≤ next - year := by
    by_contra hearly
    have hk : 0 < next - year ∧ next - year < 4 := by omega
    have hnot := Run.not_isLeap_of_lt_four hregular hyear hleap hk
    rw [← hin _ (by omega) (by omega), show year + (next - year) = next by omega] at hnot
    exact hnot hnext
  -- and one of the next two years is leap
  have hfive : next - year ≤ 5 := by
    by_contra hlate
    have hsupported : Supported (year + 5) := by
      obtain ⟨hlow, -⟩ := supported_of_isLeapYear h
      obtain ⟨-, hhigh⟩ := supported_of_isLeapYear hnext
      exact ⟨by omega, by omega⟩
    have hfound : isLeapYear (year + 4) = .ok true ∨ isLeapYear (year + 5) = .ok true := by
      by_cases hend : year + 5 = r.next
      · refine Or.inr ?_
        rw [hend] at hsupported ⊢
        exact isLeapYear_next hr hsupported
      · rw [hin 4 (by decide) (by omega), hin 5 (by decide) (by omega)]
        exact Run.isLeap_four_or_five hregular (by omega) hleap
    rcases hfound with hfound | hfound
    · exact hnone _ (by omega) (by omega) hfound
    · exact hnone _ (by omega) (by omega) hfound
  omega

end

/-! ### Spans of years -/

/-- The leap years from `a` to the year before `b`. -/
def leapYears (a b : Int) : Finset Int :=
  (Int.range a b).toFinset.filter fun year => isLeapYear year = .ok true

section

variable {a b : Int}

lemma mem_leapYears {year : Int} :
    year ∈ leapYears a b ↔ (a ≤ year ∧ year < b) ∧ isLeapYear year = .ok true := by
  simp only [leapYears, Finset.mem_filter, List.mem_toFinset, Int.mem_range_iff]

lemma leapYears_self (a : Int) : leapYears a a = ∅ := by
  refine Finset.eq_empty_of_forall_notMem fun year h => ?_
  obtain ⟨⟨hle, hlt⟩, -⟩ := mem_leapYears.1 h
  omega

lemma card_leapYears_add_one (h : a ≤ b) :
    (leapYears a (b + 1)).card =
      (leapYears a b).card + if isLeapYear b = .ok true then 1 else 0 := by
  have hrange : (Int.range a (b + 1)).toFinset = insert b (Int.range a b).toFinset := by
    ext year
    simp only [Finset.mem_insert, List.mem_toFinset, Int.mem_range_iff]
    omega
  rw [leapYears, hrange, Finset.filter_insert]
  split
  · exact Finset.card_insert_of_notMem fun hmem => Int.lt_irrefl b (mem_leapYears.1 hmem).1.2
  · rfl

lemma lengthOf_eq (h : Supported a) :
    lengthOf a = 365 + if isLeapYear a = .ok true then 1 else 0 := by
  simp only [lengthOf, YearStart.length, isLeapYear_iff_approximate h]
  split <;> rfl

/-- A span of years has 365 days for each year and one more for each leap year. -/
lemma firstOf_sub (ha : Supported a) (hle : a ≤ b) (hb : Supported b) :
    firstOf b - firstOf a = 365 * (b - a) + (leapYears a b).card := by
  induction b, hle using Int.leInduction with
  | base =>
    rw [leapYears_self, Finset.card_empty]
    omega
  | succ b hle ih =>
    have hb' : Supported b := ⟨by have := ha.1; omega, by have := hb.2; omega⟩
    have hspan := ih hb'
    rw [firstOf_add_one hb' hb, lengthOf_eq hb', card_leapYears_add_one hle]
    split <;> omega

end

/-! ### The day of March -/

/-- The first day of a year is a day of March of the Gregorian year that it starts in. -/
lemma ofDayNumber_firstOf {year : Int} (h : Supported year) :
    Date.ofDayNumber .gregorian (firstOf year) =
      .ok ⟨⟨year + 621, 3, (YearStart.approximate year).marchDay⟩⟩ := by
  refine Date.ofDayNumber_eq_ok_iff.2 ⟨⟨?_, hasDay_march h⟩, (firstOf_eq_march h).symm⟩
  obtain ⟨hlow, hhigh⟩ : -61 ≤ year ∧ year ≤ 3177 := h
  exact ⟨show -2147483648 ≤ year + 621 by omega, show year + 621 ≤ 2147483647 by omega⟩

/-! ### Leap years and first days -/

/-- Over every span of supported years the first days are as far apart as the leap years between them
say.  Each first day is one of four days of March, leap years follow one another after four or five
years, and every year outside the table is refused.  In words of fixed width the years are the same. -/
theorem leapYears_and_firstDays :
    (∀ a b, -61 ≤ a → a ≤ b → b ≤ 3177 →
      ∃ s t, YearStart.ofYear a = .ok s ∧ YearStart.ofYear b = .ok t ∧
        t.dayNumber - s.dayNumber = 365 * (b - a) + (leapYears a b).card) ∧
    (∀ year, -61 ≤ year → year ≤ 3177 →
      ∃ s, YearStart.ofYear year = .ok s ∧ s.gregorianYear = year + 621 ∧
        19 ≤ s.marchDay ∧ s.marchDay ≤ 22 ∧
        Date.ofDayNumber .gregorian s.dayNumber = .ok ⟨⟨year + 621, 3, s.marchDay⟩⟩) ∧
    (∀ year next, isLeapYear year = .ok true → isLeapYear next = .ok true → year < next →
      (∀ between, year < between → between < next → isLeapYear between ≠ .ok true) →
      next - year = 4 ∨ next - year = 5) ∧
    (∀ year, ¬(-61 ≤ year ∧ year ≤ 3177) →
      YearStart.ofYear year = .error (.unsupportedYear year)) ∧
    (∀ year, FixedWidth.Jalali.yearStart year = Checked.ofExcept (YearStart.ofYear year)) ∧
    ∀ year s, YearStart.ofYear year = .ok s → FixedWidth.Jalali.firstDay s = .ok s.dayNumber := by
  refine ⟨?_, ?_, ?_, ?_, ?_, ?_⟩
  · intro a b hfirst hle hlast
    have ha : Supported a := ⟨hfirst, Int.le_trans hle hlast⟩
    have hb : Supported b := ⟨Int.le_trans hfirst hle, hlast⟩
    exact ⟨_, _, YearStart.ofYear_of_supported ha, YearStart.ofYear_of_supported hb,
      firstOf_sub ha hle hb⟩
  · intro year hfirst hlast
    have h : Supported year := ⟨hfirst, hlast⟩
    obtain ⟨hlow, hhigh⟩ := YearStart.marchDay_bounds h
    exact ⟨_, YearStart.ofYear_of_supported h, YearStart.gregorianYear_approximate h, hlow, hhigh,
      ofDayNumber_firstOf h⟩
  · intro year next hyear hnext hlt hnone
    exact sub_of_consecutive_leap hyear hnext hlt hnone
  · intro year h
    exact YearStart.ofYear_of_not_supported h
  · -- the rest says that words hold the computation
    intro year
    exact FixedWidth.Jalali.yearStart_eq year
  · intro year s h
    obtain ⟨-, rfl⟩ := YearStart.ofYear_eq_ok_iff.1 h
    exact FixedWidth.Jalali.firstDay_eq_ok year

/-- The years around the break at 1210, before which five years pass between two leap years. -/
theorem leapYears_and_firstDays_at_break :
    (∃ s t, YearStart.ofYear 1201 = .ok s ∧ YearStart.ofYear 1215 = .ok t ∧
      t.dayNumber - s.dayNumber = 365 * 14 + 4) ∧
    (∃ s, YearStart.ofYear 1210 = .ok s ∧ s.gregorianYear = 1831 ∧
      Date.ofDayNumber .gregorian s.dayNumber = .ok ⟨⟨1831, 3, s.marchDay⟩⟩) ∧
    (isLeapYear 1205 = .ok true ∧ isLeapYear 1210 = .ok true ∧
      ((1210 : Int) - 1205 = 4 ∨ (1210 : Int) - 1205 = 5)) ∧
    YearStart.ofYear 3178 = .error (.unsupportedYear 3178) ∧
    FixedWidth.Jalali.firstDay ⟨2024, 20, true⟩ = .ok 2460390 := by
  obtain ⟨hspan, hmarch, hgap, hnone, -, hwords⟩ := leapYears_and_firstDays
  obtain ⟨s, hs, hyear, -, -, hday⟩ := hmarch 1210 (by decide) (by decide)
  have hbefore : isLeapYear 1205 = .ok true := rfl
  have hafter : isLeapYear 1210 = .ok true := rfl
  refine ⟨?_, ⟨s, hs, hyear, hday⟩, ⟨hbefore, hafter, ?_⟩, hnone 3178 (by decide), ?_⟩
  · have hcard : (leapYears 1201 1215).card = 4 := by decide +kernel
    obtain ⟨s, t, hs, ht, hdays⟩ := hspan 1201 1215 (by decide) (by decide) (by decide)
    rw [hcard] at hdays
    exact ⟨s, t, hs, ht, hdays⟩
  · refine hgap 1205 1210 hbefore hafter (by decide) ?_
    decide
  · exact hwords 1403 _ rfl

end PersianCalendar.Jalali
