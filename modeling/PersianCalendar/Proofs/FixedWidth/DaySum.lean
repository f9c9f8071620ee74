import PersianCalendar.Proofs.FixedWidth.DaySplit

/-!
# Gregorian fields summed up in words of 64 bits

`dayNumber` adds from left to right, and a sum on the way can leave its word although the day number
fits in it.  What decides is the sum in which every fourth year is still a leap year: the years of the
centuries are taken off only afterwards.  With it go the three terms that are computed before, and all
other sums lie between these and the day number (`holds_between`), so that the steps fit exactly if
`SumsFit` holds and the day number fits (`dayNumber_eq_ok_iff`).

For the fields of a day number this means that they are summed up again unless the day lies within
some 189 · 10¹² days of an end of the word (`dayNumber_of_day_eq_ok_iff`).
-/

namespace PersianCalendar.FixedWidth.Gregorian

open PersianCalendar.Gregorian (daysBeforeMonth)
open Outcome

variable {year month day k n : Int}

/-! ### The sums -/

/-- The years from the start of the count to the year, counted from March, in which a month lies. -/
def countedYear (year month : Int) : Int :=
  year + 4800 + (month - 3) / 12

/-- The day, with the days of the months from March to the one before its own. -/
def daysSinceMarch (month day : Int) : Int :=
  day + daysBeforeMonth ((month - 3) % 12)

/-- The sums fit in their words that come before the centuries are looked at: the distance to the
month from which the year is carried, the days of the months, the days of common years, and the days
with a leap year every four years. -/
def SumsFit (year month day : Int) : Prop :=
  Width.signed64.Holds (14 - month) ∧
  Width.signed64.Holds (daysSinceMarch month day) ∧
  Width.signed64.Holds (365 * countedYear year month) ∧
  Width.signed64.Holds
    (daysSinceMarch month day + 365 * countedYear year month + countedYear year month / 4)

instance (year month day : Int) : Decidable (SumsFit year month day) :=
  inferInstanceAs (Decidable (_ ∧ _))

lemma carry_eq (month : Int) : (14 - month) / 12 = -((month - 3) / 12) := by
  omega

lemma place_eq (month : Int) : month + 12 * -((month - 3) / 12) - 3 = (month - 3) % 12 := by
  omega

lemma exactDayNumber_by_sums (year month day : Int) :
    exactDayNumber year month day =
      daysSinceMarch month day + 365 * countedYear year month + countedYear year month / 4
        - countedYear year month / 100 + countedYear year month / 400 - 32045 := by
  simp only [exactDayNumber, carry_eq, place_eq, Int.sub_neg, countedYear, daysSinceMarch,
    daysBeforeMonth]

/-! ### What fits along with them -/

/-- The place of a month in its year is small, whatever the month. -/
lemma holds_place (month : Int) :
    Width.signed64.Holds ((month - 3) % 12) ∧
    Width.signed64.Holds (153 * ((month - 3) % 12)) ∧
    Width.signed64.Holds (153 * ((month - 3) % 12) + 2) := by
  simp
  omega

/-- A year whose days fit is so far inside its word that the carry does not matter. -/
lemma holds_carry (hword : Width.signed64.Holds month)
    (hmonth : Width.signed64.Holds (14 - month))
    (hyears : Width.signed64.Holds (365 * countedYear year month)) :
    Width.signed64.Holds (year + 4800) ∧ Width.signed64.Holds (countedYear year month) ∧
    Width.signed64.Holds (12 * -((month - 3) / 12)) ∧
    Width.signed64.Holds (month + 12 * -((month - 3) / 12)) := by
  simp [countedYear] at *
  omega

/-- The other sums lie between the days of the months, the sum with a leap year every four years and
the day number. -/
lemma holds_between {days years : Int} (hdays : Width.signed64.Holds days)
    (hfours : Width.signed64.Holds (days + 365 * years + years / 4))
    (htotal : Width.signed64.Holds
      (days + 365 * years + years / 4 - years / 100 + years / 400 - 32045)) :
    Width.signed64.Holds (days + 365 * years) ∧
    Width.signed64.Holds (days + 365 * years + years / 4 - years / 100) ∧
    Width.signed64.Holds (days + 365 * years + years / 4 - years / 100 + years / 400) := by
  simp at *
  omega

/-! ### Which fields are summed up -/

/-- The steps fit if these sums and the day number do, and then the day number is what they give. -/
lemma dayNumber_eq_ok_iff (hword : Width.signed64.Holds month) :
    dayNumber year month day = .ok k ↔ SumsFit year month day ∧
      Width.signed64.Holds (exactDayNumber year month day) ∧ exactDayNumber year month day = k := by
  rw [exactDayNumber_by_sums]
  simp only [dayNumber, bind_eq_ok, step_eq_ok_iff, and_assoc, exists_and_left, exists_eq_left',
    carry_eq, place_eq, Int.sub_neg]
  constructor
  · rintro ⟨hmonth, -, -, -, -, -, -, -, hdays, hyears, -, hfours, -, -, htotal, hk⟩
    exact ⟨⟨hmonth, hdays, hyears, hfours⟩, htotal, hk⟩
  · rintro ⟨⟨hmonth, hdays, hyears, hfours⟩, htotal, hk⟩
    obtain ⟨hshifted, hcounted, hcarried, hlate⟩ := holds_carry hword hmonth hyears
    obtain ⟨hplace, hline, hline'⟩ := holds_place month
    obtain ⟨hcommon, hcenturies, hcycles⟩ := holds_between hdays hfours htotal
    exact ⟨hmonth, hshifted, hcounted, hcarried, hlate, hplace, hline, hline', hdays, hyears,
      hcommon, hfours, hcenturies, hcycles, htotal, hk⟩

/-- Where the computation faults, it does so because a step does not fit in 64 bits. -/
def OnlyOverflows {α : Type} (r : Except Fault α) : Prop :=
  ∀ e, r = .error e → e = .overflow .signed64

lemma onlyOverflows_step64 (n : Int) : OnlyOverflows (step64 n) := by
  intro e h
  unfold step64 step at h
  split at h
  · cases h
  · cases h
    rfl

lemma OnlyOverflows.bind {α β : Type} {r : Except Fault α} {f : α → Except Fault β}
    (h : OnlyOverflows r) (hf : ∀ a, OnlyOverflows (f a)) : OnlyOverflows (r >>= f) := by
  intro e he
  rcases bind_eq_error.1 he with he | ⟨a, -, he⟩
  · exact h e he
  · exact hf a e he

lemma onlyOverflows_dayNumber (year month day : Int) :
    OnlyOverflows (dayNumber year month day) := by
  unfold dayNumber
  repeat refine OnlyOverflows.bind (onlyOverflows_step64 _) fun _ => ?_
  exact onlyOverflows_step64 _

lemma dayNumber_eq_overflow (h : ∀ k, dayNumber year month day ≠ .ok k) :
    dayNumber year month day = .error (.overflow .signed64) := by
  cases hr : dayNumber year month day with
  | ok k => exact absurd hr (h k)
  | error e => rw [onlyOverflows_dayNumber year month day e hr]

/-! ### The fields of a day number -/

/-- The first day number whose fields are summed up. -/
def firstSummed : Int := -9223182645231874490

/-- The last day number whose fields are summed up. -/
def lastSummed : Int := 9223182645231810399

section

variable {days years : Int} (hdays : 1 ≤ days ∧ days ≤ 368)
  (hn : n = days + 365 * years + years / 4 - years / 100 + years / 400 - 32045)
include hdays hn

-- both bounds lie inside a century, so the century alone tells on which side of them a day is

lemma fours_le_iff :
    days + 365 * years + years / 4 ≤ Width.signed64.greatest ↔ n ≤ lastSummed := by
  have hcycles : years / 400 = years / 100 / 4 := by omega
  simp only [Width.greatest, lastSummed]
  constructor
  · intro h
    by_contra hlt
    have hcentury : 252522163911150 ≤ years / 100 := by omega
    omega
  · intro h
    have hcentury : years / 100 ≤ 252522163911150 := by omega
    omega

lemma le_fours_iff :
    Width.signed64.least ≤ days + 365 * years + years / 4 ↔ firstSummed ≤ n := by
  have hcycles : years / 400 = years / 100 / 4 := by omega
  simp only [Width.least, firstSummed]
  constructor
  · intro h
    by_contra hlt
    have hcentury : years / 100 ≤ -252522163911151 := by omega
    omega
  · intro h
    have hcentury : -252522163911151 ≤ years / 100 := by omega
    omega

end

lemma daysSinceMarch_bounds (month : Int) (hday : 1 ≤ day ∧ day ≤ 31) :
    1 ≤ daysSinceMarch month day ∧ daysSinceMarch month day ≤ 368 := by
  simp only [daysSinceMarch, daysBeforeMonth]
  omega

/-- Of the sums of a day that exists only the one with a leap year every four years can fail to fit. -/
lemma sumsFit_iff {g : Ymd} (hday : Calendar.gregorian.HasDay g)
    (hn : exactDayNumber g.year g.month g.day = n) :
    SumsFit g.year g.month g.day ↔ firstSummed ≤ n ∧ n ≤ lastSummed := by
  have hlength : Calendar.gregorian.monthLength g.year g.month ≤ 31 :=
    Calendar.gregorian.monthLength_le hday.1
  have hdays : 1 ≤ daysSinceMarch g.month g.day ∧ daysSinceMarch g.month g.day ≤ 368 :=
    daysSinceMarch_bounds g.month ⟨hday.2.1, Int.le_trans hday.2.2 hlength⟩
  rw [exactDayNumber_by_sums] at hn
  rw [← fours_le_iff hdays hn.symm, ← le_fours_iff hdays hn.symm]
  constructor
  · rintro ⟨-, -, -, hlow, hhigh⟩
    exact ⟨hlow, hhigh⟩
  · intro hfours
    obtain ⟨hmonth, -⟩ := hday
    simp only [SumsFit, Width.Holds, Width.least, Width.greatest] at hfours ⊢
    omega

lemma dayNumber_of_day_eq_ok_iff {g : Ymd} (hday : Calendar.gregorian.HasDay g)
    (hn : exactDayNumber g.year g.month g.day = n) (hword : Width.signed64.Holds n) :
    dayNumber g.year g.month g.day = .ok n ↔ firstSummed ≤ n ∧ n ≤ lastSummed := by
  have hmonth : Width.signed64.Holds g.month :=
    ⟨Int.le_trans (by decide) hday.1.1, Int.le_trans hday.1.2 (by decide)⟩
  rw [dayNumber_eq_ok_iff hmonth, sumsFit_iff hday hn, hn]
  simp only [hword, and_true]

/-- Fields of 64 bits are summed up to their day number if it fits in its word and the sums of `SumsFit`
do, too, and otherwise the computation faults.  Fields that are found for a day number have that day
number, and are summed up to it for all days but those next to the ends of the word. -/
theorem day_numbers_summed_exactly (year month day : Int) :
    Width.signed64.Holds year → Width.signed64.Holds month → Width.signed64.Holds day →
      (SumsFit year month day → Width.signed64.Holds (exactDayNumber year month day) →
        dayNumber year month day = .ok (exactDayNumber year month day)) ∧
      (¬(SumsFit year month day ∧ Width.signed64.Holds (exactDayNumber year month day)) →
        dayNumber year month day = .error (.overflow .signed64)) ∧
      ∀ n, Width.signed64.Holds n → ofDayNumber? n = .ok (some ⟨year, month, day⟩) →
        exactDayNumber year month day = n ∧
        (-9223182645231874490 ≤ n ∧ n ≤ 9223182645231810399 →
          dayNumber year month day = .ok n) ∧
        (¬(-9223182645231874490 ≤ n ∧ n ≤ 9223182645231810399) →
          dayNumber year month day = .error (.overflow .signed64)) := by
  intro _ hmonth _
  refine ⟨fun hfit htotal => (dayNumber_eq_ok_iff hmonth).2 ⟨hfit, htotal, rfl⟩, ?_, ?_⟩
  · intro hnot
    refine dayNumber_eq_overflow fun k hk => ?_
    obtain ⟨hfit, htotal, -⟩ := (dayNumber_eq_ok_iff hmonth).1 hk
    exact hnot ⟨hfit, htotal⟩
  · intro n hword hf
    rw [ofDayNumber?_eq_ok hword] at hf
    split at hf
    · cases hf
    have hfields := Option.some.inj (Except.ok.inj hf)
    obtain ⟨hday, hn⟩ := hasDay_and_exactDayNumber_eq_iff.2 hfields.symm
    have hsummed := dayNumber_of_day_eq_ok_iff hday hn hword
    refine ⟨hn, hsummed.2, fun hout => dayNumber_eq_overflow fun k hk => ?_⟩
    rw [eq_exactDayNumber_of_eq_ok hk, hn] at hk
    exact hout (hsummed.1 hk)

/-- A month a thousand million years back, sums that leave the word where the day number fits and where
it does not, and the last day number whose fields are summed up with the one behind it. -/
theorem day_numbers_summed_exactly_ends :
    dayNumber 0 (-12000000000) 365242500000 = .ok 1721028 ∧
    dayNumber (-4800) 2 9223372036854775807 = .error (.overflow .signed64) ∧
    dayNumber 9223372036854775807 1 1 = .error (.overflow .signed64) ∧
    dayNumber 25252216391110260 7 20 = .ok 9223182645231810399 ∧
    dayNumber 25252216391110260 7 21 = .error (.overflow .signed64) := by
  obtain ⟨hcarried, -⟩ := day_numbers_summed_exactly 0 (-12000000000) 365242500000
    (by decide) (by decide) (by decide)
  obtain ⟨-, hday, -⟩ := day_numbers_summed_exactly (-4800) 2 9223372036854775807
    (by decide) (by decide) (by decide)
  obtain ⟨-, hyear, -⟩ := day_numbers_summed_exactly 9223372036854775807 1 1
    (by decide) (by decide) (by decide)
  obtain ⟨-, -, hlast⟩ := day_numbers_summed_exactly 25252216391110260 7 20
    (by decide) (by decide) (by decide)
  obtain ⟨-, -, hnext⟩ := day_numbers_summed_exactly 25252216391110260 7 21
    (by decide) (by decide) (by decide)
  exact ⟨hcarried (by decide) (by decide), hday (by decide), hyear (by decide),
    (hlast 9223182645231810399 (by decide) rfl).2.1 (by decide),
    (hnext 9223182645231810400 (by decide) rfl).2.2 (by decide)⟩

/-- The fields of the last day number that has any are not summed up to it again, though it fits.  A
month at the end of its word is not reached, either, on the way to a day number of seven digits. -/
theorem sum_faults_before_its_end :
    ofDayNumber? 9223372036854743763 = .ok (some ⟨25252734927761754, 9, 25⟩) ∧
    exactDayNumber 25252734927761754 9 25 = 9223372036854743763 ∧
    Width.signed64.Holds 9223372036854743763 ∧
    dayNumber 25252734927761754 9 25 = .error (.overflow .signed64) ∧
    exactDayNumber 768614336404566675 (-9223372036854775805) 1 = 2460493 ∧
    Width.signed64.Holds (-9223372036854775805) ∧
    dayNumber 768614336404566675 (-9223372036854775805) 1 = .error (.overflow .signed64) :=
  ⟨rfl, rfl, by decide, rfl, rfl, by decide, rfl⟩

end PersianCalendar.FixedWidth.Gregorian
