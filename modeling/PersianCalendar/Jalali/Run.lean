/-!
# Runs of leap years in the Jalali calendar

Leap years are four years apart, and now and then five: eight of them in 33 years.  The pattern
starts afresh at certain years, the breaks.  Between two breaks lies a run, and the leap years of
the runs before a year, with those of its own run, place the year among the days.

Main definitions: `run?` finds the run of a year; `Run.IsLeap` says which years of a run are leap;
`Run.leapsBefore` counts the leap years before a year.  A year has a run exactly when it is
`Supported` (`run?_eq_none_iff`).
-/

namespace PersianCalendar.Jalali

/-- The years at which a run starts, and after them the year at which the last run ends. -/
def breaks : List Int :=
  [-61, 9, 38, 199, 426, 686, 756, 818, 1111, 1181, 1210, 1635, 2060, 2097, 2192, 2262, 2324,
    2394, 2456, 3178]

/-- The first year that lies in a run. -/
def firstYear : Int := -61

/-- The last year that lies in a run. -/
def lastYear : Int := 3177

/-- The years that lie in a run. -/
def Supported (year : Int) : Prop :=
  firstYear ≤ year ∧ year ≤ lastYear

instance (year : Int) : Decidable (Supported year) :=
  inferInstanceAs (Decidable (_ ∧ _))

/-- The years between two breaks. -/
structure Run where
  /-- The first year of the run. -/
  first : Int
  /-- The first year after the run. -/
  next : Int
  /-- The leap years of all earlier runs. -/
  earlierLeaps : Int
deriving DecidableEq, Repr

namespace Run

/-- The number of years of a run. -/
def length (r : Run) : Int := r.next - r.first

/-- The number of leap years of a run: eight in each full cycle of 33 years, and one in each full
four years of what is left. -/
def leaps (r : Run) : Int :=
  r.length / 33 * 8 + r.length % 33 / 4

/-- The place of a year in its cycle, 0 for the first year of the run.  The last five years of a run
belong to the cycle in which the next run starts, so their places are counted back from its end. -/
def place (r : Run) (year : Int) : Int :=
  if r.next - year < 6 then year - r.next + (r.length + 4) / 33 * 33 else year - r.first

/-- A year is leap when its place in the cycle of 33 is a multiple of four below 32. -/
def IsLeap (r : Run) (year : Int) : Prop :=
  ((r.place year + 1) % 33 - 1) % 4 = 0

instance (r : Run) (year : Int) : Decidable (r.IsLeap year) :=
  inferInstanceAs (Decidable (_ = _))

/-- The leap years from the first year of the table to the year before `year`.  In a run that is
four years longer than full cycles the fourth year from its end comes after one more. -/
def leapsBefore (r : Run) (year : Int) : Int :=
  let years := year - r.first
  r.earlierLeaps + years / 33 * 8 + (years % 33 + 3) / 4
    + if r.length % 33 = 4 ∧ r.next - year = 4 then 1 else 0

end Run

/-- Looks for the run of a year that is not before `first`, among the runs between `first` and the
breaks after it. -/
def runFrom (year first earlierLeaps : Int) : List Int → Option Run
  | [] => none
  | next :: later =>
    let r : Run := ⟨first, next, earlierLeaps⟩
    if year < next then some r else runFrom year next (earlierLeaps + r.leaps) later

/-- The run in which a year lies. -/
def run? (year : Int) : Option Run :=
  match breaks with
  | [] => none
  | first :: later => if year < first then none else runFrom year first 0 later

/-! ### The years that have a run -/

theorem runFrom_eq_none_iff {year first leaps : Int} {later : List Int} :
    runFrom year first leaps later = none ↔ ∀ b ∈ later, b ≤ year := by
  induction later generalizing first leaps with
  | nil => simp [runFrom]
  | cons next later ih =>
    by_cases h : year < next
    · simp only [runFrom, h, if_true, List.mem_cons, forall_eq_or_imp, reduceCtorEq, false_iff]
      exact fun hall => absurd hall.1 (by omega)
    · simp only [runFrom, h, if_false, ih, List.mem_cons, forall_eq_or_imp]
      exact ⟨fun hall => ⟨by omega, hall⟩, fun hall => hall.2⟩

@[simp] theorem run?_eq_none_iff {year : Int} : run? year = none ↔ ¬Supported year := by
  simp only [run?, breaks, Supported, firstYear, lastYear]
  split
  · simp only [true_iff]
    omega
  · simp only [runFrom_eq_none_iff, List.mem_cons, List.not_mem_nil, or_false, forall_eq_or_imp,
      forall_eq]
    omega

theorem supported_of_run?_eq_some {year : Int} {r : Run} (h : run? year = some r) :
    Supported year := by
  refine Decidable.byContradiction fun hn => ?_
  rw [run?_eq_none_iff.2 hn] at h
  cases h

end PersianCalendar.Jalali
