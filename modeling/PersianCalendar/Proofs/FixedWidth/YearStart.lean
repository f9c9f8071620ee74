import PersianCalendar.FixedWidth.Jalali
import PersianCalendar.Proofs.FixedWidth.Gregorian
import PersianCalendar.Proofs.Jalali.Nowruz

/-!
# The first day of a Jalali year in words of 32 bits

The walk over the breaks keeps the length of the run and a count of leap years that starts at −14.
It stops at the run that the exact search finds (`positionFrom_eq_ok`), and the formulas that follow
give the exact start of the year (`supportedYearStart_eq_ok`).  No year is too great or too small for
its words (`yearStart_eq`, `approximateYearStart_eq_ok`).
-/

namespace PersianCalendar.FixedWidth.Jalali

open PersianCalendar.Jalali

lemma leapsOf_eq_ok {years late : Int} (hy : 0 ≤ years ∧ years ≤ 10000) (hl : 0 ≤ late ∧ late ≤ 3) :
    leapsOf years late = .ok (years / 33 * 8 + (years % 33 + late) / 4) := by
  simp (disch := omega) only [leapsOf, step32_eq, ok_bind]

/-- The walk stops at the run that the search finds. -/
lemma positionFrom_eq_ok {year first length leaps : Int} {later : List Int} {r : Run}
    (hsorted : (first :: later).Pairwise (· < ·)) (hlater : ∀ b ∈ later, b ≤ 4000)
    (hfirst : -61 ≤ first ∧ first ≤ 4000) (hleaps : 0 ≤ leaps ∧ leaps ≤ first + 61)
    (h : runFrom year first leaps later = some r) :
    positionFrom year first length (leaps - 14) later =
        .ok ⟨r.first, r.length, r.earlierLeaps - 14⟩ ∧
      0 ≤ r.earlierLeaps ∧ r.earlierLeaps ≤ 5000 ∧ -61 ≤ r.first ∧ r.next ≤ 4000 := by
  -- on the breaks; the count stays below the number of years since the first break
  induction later generalizing first length leaps with
  | nil => cases h
  | cons next later ih =>
    obtain ⟨hbelow, hsorted'⟩ := List.pairwise_cons.1 hsorted
    have hnext : first < next := hbelow next List.mem_cons_self
    have hle : next ≤ 4000 := hlater next List.mem_cons_self
    rw [positionFrom, step32_eq (by omega) (by omega), ok_bind]
    rw [runFrom] at h
    by_cases hyear : year < next
    · rw [if_pos hyear] at h ⊢
      cases h
      exact ⟨rfl, by simp only; omega⟩
    · rw [if_neg hyear] at h ⊢
      have hcount : leaps - 14 + ((next - first) / 33 * 8 + ((next - first) % 33 + 0) / 4) =
          leaps + (Run.mk first next leaps).leaps - 14 := by
        simp only [Run.leaps, Run.length]
        omega
      rw [leapsOf_eq_ok (by omega) (by decide), ok_bind, step32_eq (by omega) (by omega), ok_bind,
        hcount]
      refine ih hsorted' (fun b hb => hlater b (List.mem_cons_of_mem _ hb)) (by omega) ?_ h
      simp only [Run.leaps, Run.length]
      omega

lemma position_eq_ok {year : Int} {r : Run} (h : run? year = some r) :
    positionFrom year (-61) 0 (-14) breaks.tail =
        .ok ⟨r.first, r.length, r.earlierLeaps - 14⟩ ∧
      0 ≤ r.earlierLeaps ∧ r.earlierLeaps ≤ 5000 ∧ -61 ≤ r.first ∧ r.next ≤ 4000 := by
  simp only [run?, breaks] at h
  split at h
  · cases h
  · exact positionFrom_eq_ok (by decide) (by decide) (by decide) (by decide) h

lemma placeOf_eq_ok {year : Int} {r : Run} (leaps : Int)
    (hfirst : -61 ≤ r.first ∧ r.first ≤ year) (hnext : year < r.next ∧ r.next ≤ 4000) :
    placeOf ⟨r.first, r.length, leaps⟩ (year - r.first) = .ok (r.place year) := by
  have hlength : r.length = r.next - r.first := rfl
  have hlast : r.length - (year - r.first) = r.next - year := by omega
  simp only [placeOf, hlast, Run.place]
  rw [step32_eq (by omega) (by omega), ok_bind]
  by_cases h : r.next - year < 6
  · rw [if_pos h, if_pos h]
    simp (disch := omega) only [step32_eq, ok_bind]
    rw [show year - r.first - r.length = year - r.next by omega]
  · rw [if_neg h, if_neg h]
    rfl

lemma place_bounds {year : Int} {r : Run} (hfirst : -61 ≤ r.first ∧ r.first ≤ year)
    (hnext : year < r.next ∧ r.next ≤ 4000) : -10 ≤ r.place year ∧ r.place year ≤ 5000 := by
  simp only [Run.place, Run.length]
  omega

/-- The count of leap years that is kept in the walk starts at −14, and the Gregorian one is 150 too
small. -/
lemma marchDay_by_counts (count g : Int) :
    20 + (count - 14) - (g / 4 - (g / 100 + 1) * 3 / 4 - 150) =
      156 + count - PersianCalendar.Gregorian.leapYearsThrough g := by
  simp only [PersianCalendar.Gregorian.leapYearsThrough]
  omega

lemma addIf_bind {α : Type} {p : Prop} [Decidable p] {n : Int} (h : -100000 ≤ n ∧ n ≤ 100000)
    (f : Int → Except Fault α) :
    (if p then step32 (n + 1) >>= f else pure n >>= f) = f (n + if p then 1 else 0) := by
  split
  · rw [step32_eq (by omega) (by omega), ok_bind]
  · rw [Int.add_zero]
    rfl

/-- The sum by which the leap years before a year are counted. -/
lemma leapsBefore_by_words (r : Run) (year : Int) :
    r.earlierLeaps - 14 + ((year - r.first) / 33 * 8 + ((year - r.first) % 33 + 3) / 4) +
      (if r.length % 33 = 4 ∧ r.next - year = 4 then 1 else 0) = r.leapsBefore year - 14 := by
  simp only [Run.leapsBefore]
  omega

lemma leapsBefore_range {r : Run} {year : Int} (hlow : 0 ≤ r.earlierLeaps)
    (hhigh : r.earlierLeaps ≤ 5000) (hyears : 0 ≤ year - r.first ∧ year - r.first ≤ 4000) :
    0 ≤ r.leapsBefore year ∧ r.leapsBefore year ≤ 10000 := by
  simp only [Run.leapsBefore]
  omega

/-- In a run the words hold the exact start of the year. -/
lemma supportedYearStart_eq_ok {year : Int} (h : Supported year) :
    supportedYearStart year = .ok (YearStart.approximate year) := by
  obtain ⟨r, hr⟩ := exists_run h
  obtain ⟨hposition, hleaps, hlen⟩ := position_eq_ok hr
  obtain ⟨hmem, hfirst, hnext⟩ := mem_runs hr
  have hplace := placeOf_eq_ok (r.earlierLeaps - 14) (by omega : -61 ≤ r.first ∧ r.first ≤ year)
    (by omega)
  have hplaceBounds := place_bounds (by omega : -61 ≤ r.first ∧ r.first ≤ year) (by omega)
  obtain ⟨hlow, hhigh⟩ : -61 ≤ year ∧ year ≤ 3177 := h
  have hlast : r.length - (year - r.first) = r.next - year := by
    simp only [Run.length]
    omega
  have hitem : item breaks 0 = .ok (-61) := rfl
  rw [YearStart.approximate_of_run? hr]
  simp only [supportedYearStart, yearOffset]
  rw [step32_eq (by omega) (by omega), ok_bind, hitem, ok_bind, hposition, ok_bind]
  simp only
  rw [step32_eq (by omega) (by omega), ok_bind, leapsOf_eq_ok (by omega) (by decide), ok_bind,
    step32_eq (by omega) (by omega), ok_bind, hlast, step32_eq (by omega) (by omega), ok_bind,
    addIf_bind (by omega)]
  have hcount := leapsBefore_range hleaps hlen.1 (by omega : 0 ≤ year - r.first ∧
    year - r.first ≤ 4000)
  rw [leapsBefore_by_words]
  clear hleaps hlen
  simp (disch := omega) only [step32_eq, ok_bind, hplace]
  rw [marchDay_by_counts]
  rfl

/-! ### All years -/

@[simp] lemma yearStart_eq (year : Int) : yearStart year = Checked.ofExcept (YearStart.ofYear year) := by
  simp only [yearStart]
  by_cases h : Supported year
  · rw [if_pos h, supportedYearStart_eq_ok h, YearStart.ofYear_of_supported h]
    rfl
  · rw [if_neg h, YearStart.ofYear_of_not_supported h]
    rfl

@[simp] lemma approximateYearStart_eq_ok (year : Int) :
    approximateYearStart year = .ok (YearStart.approximate year) := by
  simp only [approximateYearStart, yearStart_eq, YearStart.ofYear, YearStart.approximate]
  cases run? year <;> rfl

/-- Also where the start of a year is not known, its Gregorian year has 32 bits. -/
lemma approximate_bounds (year : Int) :
    Width.signed32.Holds (YearStart.approximate year).gregorianYear ∧
      19 ≤ (YearStart.approximate year).marchDay ∧ (YearStart.approximate year).marchDay ≤ 22 := by
  by_cases h : Supported year
  · refine ⟨?_, YearStart.marchDay_bounds h⟩
    rw [YearStart.gregorianYear_approximate h, yearOffset]
    obtain ⟨hlow, hhigh⟩ : -61 ≤ year ∧ year ≤ 3177 := h
    exact ⟨show -2147483648 ≤ year + 621 by omega, show year + 621 ≤ 2147483647 by omega⟩
  · simp only [YearStart.approximate, run?_eq_none_iff.2 h]
    exact ⟨Width.holds_clamp _ _, by decide, by decide⟩

@[simp] lemma firstDay_eq_ok (year : Int) :
    firstDay (YearStart.approximate year) = .ok (YearStart.approximate year).dayNumber := by
  obtain ⟨⟨hlow, hhigh⟩, hmarch⟩ := approximate_bounds year
  simp only [Width.least, Width.greatest] at hlow hhigh
  exact Gregorian.dayNumber_eq_ok (by omega) (by decide) (by omega)

end PersianCalendar.FixedWidth.Jalali
