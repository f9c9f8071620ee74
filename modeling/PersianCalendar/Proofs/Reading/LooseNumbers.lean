import PersianCalendar.Proofs.Reading.Loose
import PersianCalendar.Proofs.Reading.Written

/-!
# Three numbers read as a date of an unknown calendar

What three numbers with separators between them are read as is decided by the guess alone
(`readLooseWith_joined`).  The guess does not mind the order of the outer fields, unless both could be
a Gregorian year (`guess_swap`).  A date in figures is three such numbers, and its year decides between
the calendars (`readLooseWith_text_of_nonneg`), unless the year is negative: its sign is then one
separator too many (`readLooseWith_text_of_neg`).
-/

namespace PersianCalendar

open Outcome Reading

/-! ### The guess decides -/

namespace Reading

variable {threshold : Int} {fields : Triple (List Char)} {t : Triple Nat}

/-- The order of the outer fields makes no difference to what is guessed, as long as only one of them
could be a Gregorian year. -/
lemma guess_swap (h : t.first < threshold ∨ t.last < threshold) :
    guess threshold fields.swap t.swap = guess threshold fields t := by
  by_cases hfirst : threshold ≤ t.first
  · have hlast : ¬threshold ≤ t.last := by omega
    simp only [guess, Triple.swap, hfirst, hlast, if_true, if_false]
  by_cases hlast : threshold ≤ t.last
  · simp only [guess, Triple.swap, hfirst, hlast, if_true, if_false]
  · -- both are below the threshold, so the numbers of digits decide
    simp only [guess, Triple.swap, hfirst, hlast, if_false]
    rcases Nat.lt_trichotomy fields.first.length fields.last.length with hlt | heq | hgt
    · simp only [hlt, Nat.lt_asymm hlt, if_true, if_false]
    · simp only [heq, Nat.lt_irrefl, if_false]
    · simp only [hgt, Nat.lt_asymm hgt, if_true, if_false]

lemma looseFields_of_not_hasFields {cs : List Char} (h0 : Text.clean cs ≠ [])
    (h : ∀ fields, ¬HasFields (Text.clean cs) fields) :
    looseFields threshold cs = .error (.notThreeFields (String.ofList (Text.clean cs))) := by
  simp only [looseFields, if_neg h0]
  exact bind_eq_error.2 (Or.inl (split_eq_error_iff.2 ⟨h, rfl⟩))

lemma denotes_value {cs : List Char} (h : cs ≠ [] ∧ IsNumeral cs) :
    Denotes cs (Decimal.value cs) :=
  (numeral_eq_ok_iff h.1).1 (if_pos h.2)

end Reading

section

variable {fields : Triple (List Char)} {t : Triple Nat} {s : String} {p q : Char}

/-- Three numbers are read as the date that is guessed, or are refused as ambiguous. -/
lemma AnyDate.readLooseWith_joined (threshold : Int) (hs : s.toList = fields.joined p q)
    (hp : isSeparator p) (hq : isSeparator q) (ht : AreNumbers fields t) :
    AnyDate.readLooseWith threshold s =
      match guess threshold fields t with
      | some (c, f) => ReadError.ofDate (AnyDate.ofYmd c f)
      | none => .error (.ambiguous s) := by
  have hclean : Text.clean s.toList = s.toList := by
    rw [hs, clean_joined ht hp hq]
  have hfields : HasFields (Text.clean s.toList) fields := by
    rw [hs]
    exact hasFields_joined ht hp hq
  rw [AnyDate.readLooseWith, looseFields_of_areNumbers hfields ht, hclean, String.ofList_toList]
  cases guess threshold fields t <;> rfl

end

/-! ### The order of the outer fields -/

/-- Three numbers are read the same in either order of the outer ones, unless both of these reach the
threshold: as the same date, as the same fields of which there is no date, or not at all, since with
equally many digits nothing tells the year from the day. -/
theorem loose_ignores_field_order (threshold : Int) {a b c : List Char} {p q : Char} {s s' : String}
    (ha : a ≠ [] ∧ IsNumeral a) (hb : b ≠ [] ∧ IsNumeral b) (hc : c ≠ [] ∧ IsNumeral c)
    (hp : isSeparator p) (hq : isSeparator q) (hs : s.toList = a ++ p :: (b ++ q :: c))
    (hs' : s'.toList = c ++ q :: (b ++ p :: a))
    (hone : ¬(threshold ≤ Decimal.value a ∧ threshold ≤ Decimal.value c)) :
    (∃ d, AnyDate.readLooseWith threshold s = .ok d ∧
      AnyDate.readLooseWith threshold s' = .ok d) ∨
    (∃ e, AnyDate.readLooseWith threshold s = .error (.date e) ∧
      AnyDate.readLooseWith threshold s' = .error (.date e)) ∨
    (a.length = c.length ∧ AnyDate.readLooseWith threshold s = .error (.ambiguous s) ∧
      AnyDate.readLooseWith threshold s' = .error (.ambiguous s')) := by
  have ht : AreNumbers ⟨a, b, c⟩ ⟨Decimal.value a, Decimal.value b, Decimal.value c⟩ :=
    ⟨denotes_value ha, denotes_value hb, denotes_value hc⟩
  have hread := AnyDate.readLooseWith_joined threshold hs hp hq ht
  have hread' := AnyDate.readLooseWith_joined threshold hs' hq hp ht.swap
  have hbelow : (Decimal.value a : Int) < threshold ∨ (Decimal.value c : Int) < threshold := by
    omega
  rw [guess_swap hbelow] at hread'
  cases hguess : guess threshold ⟨a, b, c⟩ ⟨Decimal.value a, Decimal.value b, Decimal.value c⟩ with
  | none =>
    rw [hguess] at hread hread'
    exact Or.inr (Or.inr ⟨(guess_eq_none_iff.1 hguess).2.2, hread, hread'⟩)
  | some meant =>
    obtain ⟨calendar, f⟩ := meant
    rw [hguess] at hread hread'
    cases hdate : AnyDate.ofYmd calendar f with
    | ok d =>
      simp only [hdate] at hread hread'
      exact Or.inl ⟨d, hread, hread'⟩
    | error e =>
      simp only [hdate] at hread hread'
      exact Or.inr (Or.inl ⟨e, hread, hread'⟩)

/-- Zeros in front make the number 5 the one with more digits, in either place, and then the day 1403
is refused. -/
theorem loose_ignores_field_order_zeros :
    (IsNumeral "00005".toList ∧ IsNumeral "1".toList ∧ IsNumeral "1403".toList) ∧
    AnyDate.readLooseWith 1700 "00005/1-1403" = .error (.date (.noSuchDate .jalali ⟨5, 1, 1403⟩)) ∧
    AnyDate.readLooseWith 1700 "1403-1/00005" = .error (.date (.noSuchDate .jalali ⟨5, 1, 1403⟩)) := by
  have hnumerals : IsNumeral "00005".toList ∧ IsNumeral "1".toList ∧ IsNumeral "1403".toList := by
    decide
  obtain ⟨hfirst, hmiddle, hlast⟩ := hnumerals
  have hread : AnyDate.readLooseWith 1700 "00005/1-1403" =
      .error (.date (.noSuchDate .jalali ⟨5, 1, 1403⟩)) := rfl
  refine ⟨⟨hfirst, hmiddle, hlast⟩, hread, ?_⟩
  have hs : "00005/1-1403".toList = "00005".toList ++ '/' :: ("1".toList ++ '-' :: "1403".toList) :=
    rfl
  have hs' : "1403-1/00005".toList = "1403".toList ++ '-' :: ("1".toList ++ '/' :: "00005".toList) :=
    rfl
  have horder := loose_ignores_field_order 1700 ⟨by decide, hfirst⟩ ⟨by decide, hmiddle⟩
    ⟨by decide, hlast⟩ (by decide) (by decide) hs hs' (by decide)
  rw [hread] at horder
  rcases horder with ⟨d, hd, -⟩ | ⟨e, he, hread'⟩ | ⟨-, hambiguous, -⟩
  · cases hd
  · cases he
    exact hread'
  · cases hambiguous

/-- Where both outer numbers reach the threshold, the first one is the year. -/
example :
    AnyDate.readLooseWith 10 "2024/03/20" = .ok ⟨.gregorian, ⟨⟨2024, 3, 20⟩⟩⟩ ∧
    AnyDate.readLooseWith 10 "20/03/2024" = .error (.date (.noSuchDate .gregorian ⟨20, 3, 2024⟩)) :=
  ⟨rfl, rfl⟩

/-! ### Dates in figures -/

section

variable {threshold : Int} {c : Calendar} {d : Date c}

namespace Date

lemma Valid.natAbs_year_le_of_nonneg (h : d.Valid) (hyear : 0 ≤ d.year) :
    d.year.natAbs ≤ 2147483647 := by
  have hlast : d.year ≤ c.lastYear := h.1.2
  have hwidth : c.lastYear ≤ 2147483647 := by
    cases c <;> decide
  omega

lemma Valid.areNumbers_written (h : d.Valid) (hyear : d.year.natAbs ≤ 2147483647) :
    AreNumbers d.written d.magnitudes := by
  obtain ⟨hfirst, hmiddle, hlast⟩ := traverse_eq_ok_iff.1 (traverse_written h hyear)
  exact ⟨(numeral_eq_ok_iff (Decimal.padded_ne_nil _ _)).1 hfirst,
    (numeral_eq_ok_iff (Decimal.padded_ne_nil _ _)).1 hmiddle,
    (numeral_eq_ok_iff (Decimal.padded_ne_nil _ _)).1 hlast⟩

/-- The day takes two places, and a year without a sign at least four. -/
lemma Valid.length_last_lt (h : d.Valid) (hyear : 0 ≤ d.year) :
    d.written.last.length < d.written.first.length := by
  have htwo : ∀ n ≤ 31, (Decimal.padded 2 n).length = 2 := by decide
  have hday : d.written.last.length = 2 := htwo _ (Int.toNat_le.2 h.day_le)
  have hfour : 4 ≤ d.written.first.length := by
    rw [written, if_neg (Int.not_lt.2 hyear), Decimal.padded, List.length_leftpad]
    exact Nat.le_max_left _ _
  omega

lemma Valid.toYmd_magnitudes_of_nonneg (h : d.Valid) (hyear : 0 ≤ d.year) :
    d.magnitudes.toYmd = d.toYmd := by
  have hymd := toYmd_magnitudes h
  rwa [decide_eq_false (Int.not_lt.2 hyear)] at hymd

end Date

namespace Calendar

/-- The calendar that a year is taken for. -/
def ofYear (threshold year : Int) : Calendar :=
  if threshold ≤ year then gregorian else jalali

lemma ofYear_eq_gregorian_iff {threshold year : Int} :
    ofYear threshold year = gregorian ↔ threshold ≤ year := by
  rw [ofYear]
  split
  · exact iff_of_true rfl ‹_›
  · exact iff_of_false nofun ‹_›

lemma ofYear_eq_jalali_iff {threshold year : Int} :
    ofYear threshold year = jalali ↔ year < threshold := by
  rw [ofYear]
  split
  · exact iff_of_false nofun (Int.not_lt.2 ‹_›)
  · exact iff_of_true rfl (Int.not_le.1 ‹_›)

end Calendar

/-- The year of a date in figures is in front, and decides between the calendars. -/
lemma Reading.guess_written (h : d.Valid) (hyear : 0 ≤ d.year) (hthreshold : 31 < threshold) :
    guess threshold d.written d.magnitudes =
      some (Calendar.ofYear threshold d.year, d.toYmd) := by
  have hfirst : (d.magnitudes.first : Int) = d.year := Int.natAbs_of_nonneg hyear
  have hlast : (d.magnitudes.last : Int) = d.day := Int.toNat_of_nonneg h.day_nonneg
  have hday := h.day_le
  refine guess_eq_some_iff.2 (Or.inl ⟨?_, (h.toYmd_magnitudes_of_nonneg hyear).symm⟩)
  rw [Calendar.ofYear]
  split
  · exact .gregorian (by omega)
  · exact .jalali (by omega) (by omega) (h.length_last_lt hyear)

namespace AnyDate

lemma readLooseWith_text_of_nonneg (h : d.Valid) (hyear : 0 ≤ d.year) (hthreshold : 31 < threshold) :
    readLooseWith threshold d.text =
      ReadError.ofDate (ofYmd (Calendar.ofYear threshold d.year) d.toYmd) := by
  have hjoined : d.text.toList = d.written.joined c.separator c.separator := by
    rw [Date.text, String.toList_ofList, h.chars_eq, if_neg (Int.not_lt.2 hyear)]
    rfl
  rw [readLooseWith_joined threshold hjoined c.isSeparator_separator c.isSeparator_separator
    (h.areNumbers_written (h.natAbs_year_le_of_nonneg hyear)), guess_written h hyear hthreshold]

/-- With the sign of a negative year a date in figures falls into four fields. -/
lemma readLooseWith_text_of_neg (hyear : d.year < 0) :
    readLooseWith threshold d.text = .error (.notThreeFields d.text) := by
  obtain ⟨cs, hminus⟩ : ∃ cs, d.chars = '-' :: cs := by
    rw [Date.chars, Decimal.chars_of_neg 4 hyear]
    exact ⟨_, rfl⟩
  have hclean : Text.clean d.text.toList = '-' :: cs := by
    rw [Date.text, String.toList_ofList, d.clean_chars, hminus]
  have hfields : looseFields threshold d.text.toList = .error (.notThreeFields d.text) := by
    rw [looseFields_of_not_hasFields, hclean, Date.text, hminus]
    · rw [hclean]
      exact List.cons_ne_nil _ _
    · rw [hclean]
      exact not_hasFields_minus cs
  exact bind_eq_error.2 (Or.inl hfields)

/-- A date in figures is read as itself exactly if its year decides for its own calendar. -/
lemma readLooseWith_text_eq_ok_iff (h : d.Valid) (hyear : 0 ≤ d.year) (hthreshold : 31 < threshold) :
    readLooseWith threshold d.text = .ok ⟨c, d⟩ ↔ Calendar.ofYear threshold d.year = c := by
  rw [readLooseWith_text_of_nonneg h hyear hthreshold, ReadError.ofDate_eq_ok_iff]
  constructor
  · intro hok
    obtain ⟨e, -, he⟩ := map_eq_ok.1 hok
    exact congrArg AnyDate.calendar he
  · intro hc
    rw [hc]
    exact ofYmd_ymd (d := ⟨c, d⟩) h

end AnyDate

end

/-- For every threshold that no day reaches, a date in figures that is read without knowing its
calendar is read as itself exactly if its year is not negative and lies on the side of the threshold
that belongs to its calendar.  A date in a negative year falls into four fields. -/
theorem loose_reads_dates_in_figures (threshold : Int) (hthreshold : 31 < threshold) :
    (∀ d : Date .jalali, d.Valid →
      (AnyDate.readLooseWith threshold d.text = .ok ⟨.jalali, d⟩ ↔
        0 ≤ d.year ∧ d.year < threshold)) ∧
    (∀ d : Date .gregorian, d.Valid →
      (AnyDate.readLooseWith threshold d.text = .ok ⟨.gregorian, d⟩ ↔
        0 ≤ d.year ∧ threshold ≤ d.year)) ∧
    ∀ c, ∀ d : Date c, d.Valid → d.year < 0 →
      AnyDate.readLooseWith threshold d.text = .error (.notThreeFields d.text) := by
  have hside : ∀ {c : Calendar} {d : Date c}, d.Valid →
      (AnyDate.readLooseWith threshold d.text = .ok ⟨c, d⟩ ↔
        0 ≤ d.year ∧ Calendar.ofYear threshold d.year = c) := by
    intro c d h
    by_cases hyear : d.year < 0
    · rw [AnyDate.readLooseWith_text_of_neg hyear]
      exact iff_of_false nofun fun hside => absurd hside.1 (Int.not_le.2 hyear)
    · rw [AnyDate.readLooseWith_text_eq_ok_iff h (Int.not_lt.1 hyear) hthreshold]
      exact (and_iff_right (Int.not_lt.1 hyear)).symm
  refine ⟨fun d h => ?_, fun d h => ?_, fun c d _ hyear => AnyDate.readLooseWith_text_of_neg hyear⟩
  · rw [hside h, Calendar.ofYear_eq_jalali_iff]
  · rw [hside h, Calendar.ofYear_eq_gregorian_iff]

/-- Dates next to a threshold of 1000 on either side, the last Gregorian date, and a negative year. -/
theorem loose_reads_dates_in_figures_next_to_threshold :
    AnyDate.readLooseWith 1000 "0999/12/29" = .ok ⟨.jalali, ⟨⟨999, 12, 29⟩⟩⟩ ∧
    AnyDate.readLooseWith 1000 "1000/01/31" ≠ .ok ⟨.jalali, ⟨⟨1000, 1, 31⟩⟩⟩ ∧
    AnyDate.readLooseWith 1000 "2147483647-12-31" = .ok ⟨.gregorian, ⟨⟨2147483647, 12, 31⟩⟩⟩ ∧
    AnyDate.readLooseWith 1000 "0999-12-31" ≠ .ok ⟨.gregorian, ⟨⟨999, 12, 31⟩⟩⟩ ∧
    AnyDate.readLooseWith 1000 "-061/01/01" = .error (.notThreeFields "-061/01/01") := by
  obtain ⟨hjalali, hgregorian, hnegative⟩ := loose_reads_dates_in_figures 1000 (by decide)
  have hbelow := (hjalali ⟨⟨999, 12, 29⟩⟩ (by decide)).2 (by decide)
  have hreached := mt (hjalali ⟨⟨1000, 1, 31⟩⟩ (by decide)).1 (by decide)
  have hlast := (hgregorian ⟨⟨2147483647, 12, 31⟩⟩ (by decide)).2 (by decide)
  have hmissed := mt (hgregorian ⟨⟨999, 12, 31⟩⟩ (by decide)).1 (by decide)
  have hsign := hnegative .jalali ⟨⟨-61, 1, 1⟩⟩ (by decide) (by decide)
  exact ⟨hbelow, hreached, hlast, hmissed, hsign⟩

end PersianCalendar
