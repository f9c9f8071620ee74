import PersianCalendar.Date.Basic

/-!
# The order of dates

Dates of one calendar are ordered by year, then by month, then by day.
-/

namespace PersianCalendar.Date

variable {c : Calendar}

/-- Orders two dates by their fields, the year first. -/
def compare (d e : Date c) : Ordering :=
  ((Ord.compare d.year e.year).then (Ord.compare d.month e.month)).then (Ord.compare d.day e.day)

instance : Ord (Date c) := ⟨compare⟩

instance : LT (Date c) := ltOfOrd

instance : LE (Date c) := leOfOrd

instance (d e : Date c) : Decidable (d < e) :=
  inferInstanceAs (Decidable (compare d e = .lt))

theorem lt_iff {d e : Date c} :
    d < e ↔ d.year < e.year ∨ d.year = e.year ∧
      (d.month < e.month ∨ d.month = e.month ∧ d.day < e.day) := by
  show compare d e = .lt ↔ _
  simp only [compare, Ordering.then_eq_lt, Ordering.then_eq_eq, Int.compare_eq_lt,
    Int.compare_eq_eq]
  omega

end PersianCalendar.Date
