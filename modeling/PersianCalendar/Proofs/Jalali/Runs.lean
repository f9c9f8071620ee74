import Mathlib.Tactic.Lemma
import PersianCalendar.Jalali.Run

/-!
# The runs in their order

The search for the run of a year goes over the breaks.  Here all runs are listed, and what is needed
of them is read off the list: the runs follow one another, their lengths leave 4 or 29 years over
full cycles of 33, and the leap years before a run stay close to 8 in 33.

From the lengths alone it follows that `Run.leapsBefore` counts the years that `Run.IsLeap` calls
leap, inside a run and from one run to the next (`leapsBefore_add_one`, `leapsBefore_of_follows`).
-/

namespace PersianCalendar.Jalali

/-- The leap years among the first `years` years of regular cycles. -/
def leapsInCycles (years : Int) : Int :=
  years / 33 * 8 + (years % 33 + 3) / 4

/-- In regular cycles every fourth year is leap, from the first one of a cycle on to the 29th. -/
lemma leapsInCycles_add_one (years : Int) :
    leapsInCycles (years + 1) =
      leapsInCycles years + if ((years + 1) % 33 - 1) % 4 = 0 then 1 else 0 := by
  have hcycle : (years % 33 = 32 ∧ (years + 1) % 33 = 0 ∧ (years + 1) / 33 = years / 33 + 1) ∨
      (years % 33 < 32 ∧ (years + 1) % 33 = years % 33 + 1 ∧ (years + 1) / 33 = years / 33) := by
    omega
  simp only [leapsInCycles]
  rcases hcycle with ⟨hplace, hmod, hdiv⟩ | ⟨-, hmod, hdiv⟩
  · rw [hplace, hmod, hdiv]
    omega
  · rw [hmod, hdiv]
    omega

namespace Run

/-- A run whose length is full cycles of 33 years and 4 or 29 years more. -/
def Regular (r : Run) : Prop :=
  29 ≤ r.length ∧ (r.length % 33 = 4 ∨ r.length % 33 = 29)

instance (r : Run) : Decidable r.Regular :=
  inferInstanceAs (Decidable (_ ∧ _))

/-- The run `r'` starts where `r` ends. -/
def Follows (r' r : Run) : Prop :=
  r'.first = r.next ∧ r'.earlierLeaps = r.earlierLeaps + r.leaps

instance (r' r : Run) : Decidable (r'.Follows r) :=
  inferInstanceAs (Decidable (_ ∧ _))

/-- How far the leap years before a run are from 8 in 33 years, in parts of a 33rd. -/
def drift (r : Run) : Int :=
  33 * r.earlierLeaps - 8 * r.first

variable {r r' : Run} {year : Int}

/-- Of the last five years of a run only the first is leap. -/
lemma isLeap_iff_of_last (hnext : year < r.next) (hlast : r.next - year < 6) :
    r.IsLeap year ↔ r.next - year = 5 := by
  have hplace : (r.place year + 1) % 33 =
      if r.next - year = 1 then 0 else 34 - (r.next - year) := by
    simp only [place, hlast, if_true]
    omega
  simp only [IsLeap, hplace]
  omega

lemma isLeap_iff_of_not_last (hlast : ¬r.next - year < 6) :
    r.IsLeap year ↔ ((year - r.first + 1) % 33 - 1) % 4 = 0 := by
  simp only [IsLeap, place, hlast, if_false]

/-- Inside a run the leap years before a year grow by one at each leap year. -/
lemma leapsBefore_add_one (hr : r.Regular) (hnext : year + 1 < r.next) :
    r.leapsBefore (year + 1) = r.leapsBefore year + if r.IsLeap year then 1 else 0 := by
  by_cases hlast : r.next - year < 6
  · -- at most four years are left, so the place in the cycle is known
    simp only [isLeap_iff_of_last (by omega) hlast, leapsBefore]
    obtain ⟨-, hlen⟩ := hr
    have hyear : year - r.first = r.length - (r.next - year) := by simp only [length]; omega
    have hyear' : year + 1 - r.first = r.length - (r.next - year) + 1 := by omega
    rw [hyear, hyear']
    omega
  · have hstep := leapsInCycles_add_one (year - r.first)
    simp only [leapsInCycles] at hstep
    simp only [isLeap_iff_of_not_last hlast, leapsBefore,
      show year + 1 - r.first = year - r.first + 1 by omega]
    omega

/-- The same from the last year of a run to the first of the next one. -/
lemma leapsBefore_of_follows (hr : r.Regular) (hr' : r'.Regular) (h : r'.Follows r)
    (hnext : year + 1 = r.next) :
    r'.leapsBefore (year + 1) = r.leapsBefore year + if r.IsLeap year then 1 else 0 := by
  have hleap : ¬r.IsLeap year := by
    rw [isLeap_iff_of_last (by omega) (by omega)]
    omega
  have hbefore : r.leapsBefore year = r.earlierLeaps + r.leaps := by
    obtain ⟨-, hlen⟩ := hr
    have hyear : year - r.first = r.length - 1 := by simp only [length]; omega
    simp only [leapsBefore, leaps, hyear]
    omega
  obtain ⟨hstart, hleaps⟩ := h
  have hafter : r'.leapsBefore (year + 1) = r'.earlierLeaps := by
    have hlong := hr'.1
    have hyear : year + 1 - r'.first = 0 := by omega
    have hlength : r'.next - (year + 1) = r'.length := by simp only [length]; omega
    simp only [leapsBefore, hyear, hlength]
    omega
  rw [hafter, hbefore, if_neg hleap, hleaps, Int.add_zero]

/-- The leap years before a year, in parts of a 33rd, are 8 for each year and the drift of the run,
and at most 33 parts more. -/
lemma leapsBefore_bounds (r : Run) (year : Int) :
    r.drift + 8 * year ≤ 33 * r.leapsBefore year ∧
      33 * r.leapsBefore year ≤ r.drift + 8 * year + 33 := by
  simp only [drift, leapsBefore, length]
  omega

end Run

/-! ### The list of all runs -/

/-- The runs between `first` and the breaks after it. -/
def runsFrom (first earlierLeaps : Int) : List Int → List Run
  | [] => []
  | next :: later =>
    let r : Run := ⟨first, next, earlierLeaps⟩
    r :: runsFrom next (earlierLeaps + r.leaps) later

/-- All runs. -/
def runs : List Run :=
  match breaks with
  | [] => []
  | first :: later => runsFrom first 0 later

/-- The search finds one of the runs, and the year lies in it. -/
lemma mem_runsFrom {year first leaps : Int} {later : List Int} {r : Run} (hfirst : first ≤ year)
    (h : runFrom year first leaps later = some r) :
    r ∈ runsFrom first leaps later ∧ r.first ≤ year ∧ year < r.next := by
  induction later generalizing first leaps with
  | nil => cases h
  | cons next later ih =>
    simp only [runFrom] at h
    split at h
    · cases h
      exact ⟨List.mem_cons_self, hfirst, ‹_›⟩
    · obtain ⟨hmem, hyear⟩ := ih (by omega) h
      exact ⟨List.mem_cons_of_mem _ hmem, hyear⟩

lemma mem_runs {year : Int} {r : Run} (h : run? year = some r) :
    r ∈ runs ∧ r.first ≤ year ∧ year < r.next := by
  simp only [run?, breaks] at h
  split at h
  · cases h
  · exact mem_runsFrom (by omega) h

lemma exists_run {year : Int} (h : Supported year) : ∃ r, run? year = some r := by
  cases hr : run? year with
  | none => exact absurd h (run?_eq_none_iff.1 hr)
  | some r => exact ⟨r, rfl⟩

lemma regular_of_mem : ∀ r ∈ runs, r.Regular := by decide

/-- The leap years before a run never leave the 8 in 33 by more than a few parts. -/
lemma drift_of_mem : ∀ r ∈ runs, 482 ≤ r.drift ∧ r.drift ≤ 489 := by decide

/-- Runs that overlap are the same. -/
lemma eq_of_mem : ∀ r ∈ runs, ∀ r' ∈ runs, r.first < r'.next → r'.first < r.next → r' = r := by
  decide +kernel

/-- The run that starts where another one ends follows it. -/
lemma follows_of_mem : ∀ r ∈ runs, ∀ r' ∈ runs, r'.first ≤ r.next → r.next < r'.next →
    r'.Follows r := by
  decide +kernel

end PersianCalendar.Jalali
