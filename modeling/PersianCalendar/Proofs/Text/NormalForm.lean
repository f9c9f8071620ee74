import Mathlib.Logic.Function.Iterate
import PersianCalendar.Proofs.Text.Spelling
import PersianCalendar.Reading.YearFirst

/-!
# What cleaning leaves at the ends of a text

A cleaned text holds neither digits of other scripts nor marks, and no blank is left at its ends.  A
quote can be left there, since quotes are taken off only once: under the outer quotes, behind blanks,
there may be more of them (`HidesQuote`).  Just then a second cleaning takes off more than the first
did (`clean_clean_eq_iff`, `bare_clean_iff`).  A cleaning that leaves a quote at an end has taken off
another one, so cleaning once more than there are quotes brings a text to its core, which has neither
blanks nor quotes at its ends (`iterate_clean`).
-/

namespace PersianCalendar

/-- Digits of the other scripts are gone from western text. -/
lemma Digit.western_notMem (c : Char) : western c ∉ persianDigits ++ arabicDigits := by
  by_cases h : c ∈ persianDigits ++ arabicDigits
  · have hall : (persianDigits ++ arabicDigits).all fun d =>
        western d ∉ persianDigits ++ arabicDigits := by decide
    exact List.all_iff_forall_prop.1 hall c h
  · rwa [western_eq_self h]

namespace Text

variable {c : Char} {cs : List Char}

/-! ### Digits and marks -/

lemma notMem_of_mem_clean (h : c ∈ clean cs) :
    c ∉ Digit.persianDigits ++ Digit.arabicDigits ∧ isMark c = false := by
  have hplain : c ∈ plain cs :=
    mem_of_mem_trimWhere (mem_of_mem_trimWhere (mem_of_mem_trimWhere h))
  obtain ⟨hmem, hmark⟩ := List.mem_filter.1 hplain
  obtain ⟨d, -, rfl⟩ := List.mem_map.1 hmem
  exact ⟨Digit.western_notMem d, by simpa using hmark⟩

lemma plain_clean (cs : List Char) : plain (clean cs) = clean cs :=
  plain_of_western fun _ hc =>
    ⟨Digit.western_eq_self (notMem_of_mem_clean hc).1, (notMem_of_mem_clean hc).2⟩

/-- A cleaned text is plain and trimmed, so of cleaning it again only the last two steps are left. -/
lemma clean_clean (cs : List Char) : clean (clean cs) = trim (trimWhere isQuote (clean cs)) := by
  have htrim : trim (clean cs) = clean cs := trimWhere_of_bare (bare_trimWhere _ _)
  rw [clean, plain_clean, htrim]

/-! ### Quotes at the ends -/

lemma isBlank_of_isQuote (h : isQuote c) : isBlank c = false := by
  simp only [isQuote, Bool.or_eq_true, beq_iff_eq] at h
  rcases h with rfl | rfl <;> rfl

lemma isQuote_of_isBlank_or_isMark (h : isBlank c ∨ isMark c) : isQuote c = false := by
  by_contra hquote
  simp only [isQuote, Bool.not_eq_false, Bool.or_eq_true, beq_iff_eq] at hquote
  rcases hquote with rfl | rfl
  · exact absurd h (by decide)
  · exact absurd h (by decide)

lemma isQuote_of_western (h : isQuote (Digit.western c)) : isQuote c := by
  by_cases hmem : c ∈ Digit.persianDigits ++ Digit.arabicDigits
  · have hall : (Digit.persianDigits ++ Digit.arabicDigits).all fun d =>
        !isQuote (Digit.western d) := by decide
    have hnot := List.all_eq_true.1 hall c hmem
    rw [h] at hnot
    cases hnot
  · rwa [Digit.western_eq_self hmem] at h

/-- A text without quotes is only made plain and trimmed. -/
lemma clean_of_no_quotes (h : ∀ c ∈ cs, isQuote c = false) : clean cs = trim (plain cs) := by
  have hnone : ∀ c ∈ trim (plain cs), isQuote c = false := by
    intro c hc
    obtain ⟨d, hd, rfl⟩ := List.mem_map.1 (List.mem_filter.1 (mem_of_mem_trimWhere hc)).1
    cases hquote : isQuote (Digit.western d) with
    | false => rfl
    | true =>
      have hnot := h d hd
      rw [isQuote_of_western hquote] at hnot
      cases hnot
  rw [clean, trimWhere_eq_self hnone]
  exact trimWhere_of_bare (bare_trimWhere _ _)

/-- Characters that stay are followed by the same characters when the text is cleaned, up to some place
at which it is cut. -/
lemma exists_clean_append (h : ∀ c ∈ cs, Plain c ∧ isQuote c = false) (h0 : cs ≠ [])
    (after : List Char) : ∃ rest, rest <+: plain after ∧ clean (cs ++ after) = cs ++ rest := by
  have hblank : Bare isBlank cs := bare_of_forall fun c hc => (h c hc).1.2.2
  have hquote : Bare isQuote cs := bare_of_forall fun c hc => (h c hc).2
  refine ⟨(((plain after).rdropWhile isBlank).rdropWhile isQuote).rdropWhile isBlank, ?_, ?_⟩
  · exact ((List.rdropWhile_prefix _ _).trans (List.rdropWhile_prefix _ _)).trans
      (List.rdropWhile_prefix _ _)
  · have hplain : plain cs = cs := plain_eq_self fun c hc => (h c hc).1
    simp [clean, trim, hplain, trimWhere_append_right hblank h0, trimWhere_append_right hquote h0]

/-- The text begins with blanks and a quote behind them, or it ends so. -/
def QuoteBehindBlanks (cs : List Char) : Prop :=
  ∃ blanks q rest, (∀ b ∈ blanks, isBlank b) ∧ isQuote q ∧
    (cs = blanks ++ q :: rest ∨ cs = rest ++ q :: blanks)

/-- Behind the outer quotes of the text, around which blanks may stand, come blanks and another
quote. -/
def HidesQuote (cs : List Char) : Prop :=
  ∃ outer inner, TrimsTo isBlank cs outer ∧ TrimsTo isQuote outer inner ∧ QuoteBehindBlanks inner

/-- The first character left of a text that begins with blanks and a quote is the quote. -/
lemma not_bare_trim_append {blanks rest : List Char} {q : Char} (hblanks : ∀ b ∈ blanks, isBlank b)
    (hq : isQuote q) : ¬Bare isQuote (trim (blanks ++ q :: rest)) := by
  have htrim : trimWhere isBlank (blanks ++ q :: rest ++ []) = trim (q :: rest) :=
    trimWhere_append hblanks (List.forall_mem_nil _)
  rw [List.append_nil] at htrim
  intro hbare
  rw [trim, htrim] at hbare
  have hnot := hbare.1 q (head?_trimWhere_cons (isBlank_of_isQuote hq))
  rw [hq] at hnot
  cases hnot

lemma bare_trim_iff : Bare isQuote (trim cs) ↔ ¬QuoteBehindBlanks cs := by
  constructor
  · rintro hbare ⟨blanks, q, rest, hblanks, hq, rfl | rfl⟩
    · exact not_bare_trim_append hblanks hq hbare
    · -- at the end it is the same with the text reversed
      have hreverse : (rest ++ q :: blanks).reverse = blanks.reverse ++ q :: rest.reverse := by
        rw [List.reverse_append, List.reverse_cons, List.append_assoc]
        rfl
      rw [← bare_reverse, trim, ← trimWhere_reverse, hreverse] at hbare
      exact not_bare_trim_append (fun b hb => hblanks b (List.mem_reverse.1 hb)) hq hbare
  · intro hnot
    obtain ⟨-, before, after, hcs, hbefore, hafter⟩ := trimsTo_trimWhere isBlank cs
    constructor
    · intro q hq
      obtain ⟨rest, hrest⟩ := List.head?_eq_some_iff.1 hq
      rw [← Bool.not_eq_true]
      refine fun hquote => hnot ⟨before, q, rest ++ after, hbefore, hquote, Or.inl ?_⟩
      rw [hcs, ← trim, hrest, List.append_assoc, List.cons_append]
    · intro q hq
      obtain ⟨rest, hrest⟩ := List.getLast?_eq_some_iff.1 hq
      rw [← Bool.not_eq_true]
      refine fun hquote => hnot ⟨after, q, before ++ rest, hafter, hquote, Or.inr ?_⟩
      rw [hcs, ← trim, hrest, ← List.append_assoc, List.append_assoc _ [q], List.singleton_append]

lemma bare_clean_iff : Bare isQuote (clean cs) ↔ ¬HidesQuote (plain cs) := by
  rw [clean, bare_trim_iff, not_iff_not]
  constructor
  · intro hbehind
    exact ⟨_, _, trimsTo_trimWhere _ _, trimsTo_trimWhere _ _, hbehind⟩
  · rintro ⟨outer, inner, houter, hinner, hbehind⟩
    rw [← trimWhere_eq_iff] at houter hinner
    rwa [trim, houter, hinner]

/-! ### The core of a text -/

/-- The character is a blank or a quote. -/
def isOuter (c : Char) : Bool := isBlank c || isQuote c

/-- The plain text without blanks and quotes at its ends. -/
def core (cs : List Char) : List Char := trimWhere isOuter (plain cs)

lemma bare_isOuter_iff : Bare isOuter cs ↔ Bare isBlank cs ∧ Bare isQuote cs := by
  simp only [Bare, isOuter, Bool.or_eq_false_iff]
  grind

lemma trimWhere_isOuter_clean (cs : List Char) : trimWhere isOuter (clean cs) = core cs := by
  have hblank : ∀ c, isBlank c → isOuter c := fun c h => by rw [isOuter, h, Bool.true_or]
  have hquote : ∀ c, isQuote c → isOuter c := fun c h => by rw [isOuter, h, Bool.or_true]
  rw [clean, trim, trimWhere_trimWhere hblank, trimWhere_trimWhere hquote, trim,
    trimWhere_trimWhere hblank, core]

lemma core_clean (cs : List Char) : core (clean cs) = core cs := by
  rw [core, plain_clean, trimWhere_isOuter_clean]

lemma clean_eq_core (h : Bare isQuote (clean cs)) : clean cs = core cs := by
  rw [← trimWhere_isOuter_clean]
  exact (trimWhere_of_bare (bare_isOuter_iff.2 ⟨bare_trimWhere _ _, h⟩)).symm

lemma clean_clean_eq_iff : clean (clean cs) = clean cs ↔ Bare isQuote (clean cs) := by
  rw [clean_clean]
  constructor
  · intro h
    -- nothing is taken off, so there was no quote to take off
    have hlength : (clean cs).length ≤ (trimWhere isQuote (clean cs)).length := by
      have hle := (trimWhere_sublist isBlank (trimWhere isQuote (clean cs))).length_le
      rwa [← trim, h] at hle
    rw [← (trimWhere_sublist isQuote (clean cs)).eq_of_length_le hlength]
    exact bare_trimWhere _ _
  · intro h
    rw [trimWhere_of_bare h]
    exact trimWhere_of_bare (bare_trimWhere _ _)

/-! ### Cleaning again and again -/

lemma countP_plain_le (cs : List Char) : (plain cs).countP isQuote ≤ cs.countP isQuote := by
  have hmarks : (plain cs).countP isQuote ≤ (cs.map Digit.western).countP isQuote :=
    List.filter_sublist.countP_le
  rw [List.countP_map] at hmarks
  exact Nat.le_trans hmarks (List.countP_mono_left fun _ _ => isQuote_of_western)

/-- A cleaning that leaves a quote at an end has taken off another one. -/
lemma countP_clean_lt (h : ¬Bare isQuote (clean cs)) :
    (clean cs).countP isQuote < cs.countP isQuote := by
  have hplain := countP_plain_le cs
  have houter : (trim (plain cs)).countP isQuote ≤ (plain cs).countP isQuote :=
    (trimWhere_sublist _ _).countP_le
  have hinner : (trimWhere isQuote (trim (plain cs))).countP isQuote <
      (trim (plain cs)).countP isQuote := by
    refine countP_trimWhere_lt fun hself => h ?_
    -- without outer quotes nothing comes after the first step
    have hbare := bare_trimWhere isQuote (trim (plain cs))
    have htrim : trim (trim (plain cs)) = trim (plain cs) := trimWhere_of_bare (bare_trimWhere _ _)
    rw [hself] at hbare
    rwa [clean, hself, htrim]
  have hclean : (clean cs).countP isQuote ≤ (trimWhere isQuote (trim (plain cs))).countP isQuote :=
    (trimWhere_sublist _ _).countP_le
  omega

/-- Cleaning once more than there are quotes in a text leaves its core. -/
lemma iterate_clean {n : Nat} (h : cs.countP isQuote < n) : clean^[n] cs = core cs := by
  induction n generalizing cs with
  | zero => exact absurd h (Nat.not_lt_zero _)
  | succ n ih =>
    rw [Function.iterate_succ_apply]
    by_cases hbare : Bare isQuote (clean cs)
    · rw [Function.iterate_fixed (clean_clean_eq_iff.2 hbare), clean_eq_core hbare]
    · rw [ih (Nat.lt_of_lt_of_le (countP_clean_lt hbare) (Nat.le_of_lt_succ h)), core_clean]

/-! ### Cleaned texts -/

lemma cleaned_eq_cleaned_iff {s s' : String} :
    cleaned s = cleaned s' ↔ clean s.toList = clean s'.toList := by
  rw [← toList_cleaned, ← toList_cleaned, String.toList_inj]

lemma toList_iterate_cleaned (n : Nat) (s : String) :
    (cleaned^[n] s).toList = clean^[n] s.toList := by
  induction n generalizing s with
  | zero => rfl
  | succ n ih => simp [Function.iterate_succ_apply, ih]

/-- A cleaned text holds neither digits of other scripts nor marks and has no blanks at its ends.  It
has a quote there exactly if blanks hide one under the outer quotes, and exactly then a second cleaning
changes it again.  With one cleaning more than there are quotes nothing but the core is left. -/
theorem cleaned_text_ends (s : String) :
    (∀ c ∈ (cleaned s).toList,
      c ∉ Digit.persianDigits ++ Digit.arabicDigits ∧ isMark c = false) ∧
    Bare isBlank (cleaned s).toList ∧
    (Bare isQuote (cleaned s).toList ↔ ¬HidesQuote (plain s.toList)) ∧
    (cleaned (cleaned s) = cleaned s ↔ ¬HidesQuote (plain s.toList)) ∧
    ∀ n, s.toList.countP isQuote < n → cleaned^[n] s = String.ofList (core s.toList) := by
  refine ⟨?_, ?_, ?_, ?_, ?_⟩
  · rw [toList_cleaned]
    exact fun c => notMem_of_mem_clean
  · rw [toList_cleaned]
    exact bare_trimWhere _ _
  · rw [toList_cleaned]
    exact bare_clean_iff
  · simp [cleaned_eq_cleaned_iff, clean_clean_eq_iff, bare_clean_iff]
  · intro n hn
    rw [← iterate_clean hn, ← toList_iterate_cleaned, String.ofList_toList]

/-- A text in Persian digits with quotes within quotes. -/
theorem cleaned_text_ends_nested :
    HidesQuote (plain "' \"\u200f۱۴۰۳/01/05\" '".toList) ∧
    ('1' ∈ (cleaned "' \"\u200f۱۴۰۳/01/05\" '").toList ∧
      '1' ∉ Digit.persianDigits ++ Digit.arabicDigits ∧ isMark '1' = false) ∧
    "' \"\u200f۱۴۰۳/01/05\" '".toList.countP isQuote < 5 ∧
    cleaned^[5] "' \"\u200f۱۴۰۳/01/05\" '" = "1403/01/05" := by
  obtain ⟨hchars, -, -, hagain, hcore⟩ := cleaned_text_ends "' \"\u200f۱۴۰۳/01/05\" '"
  have hmem : '1' ∈ (cleaned "' \"\u200f۱۴۰۳/01/05\" '").toList := by decide
  refine ⟨?_, ⟨hmem, hchars '1' hmem⟩, by decide, hcore 5 (by decide)⟩
  by_contra hnot
  have hsame := hagain.2 hnot
  revert hsame
  decide

/-- Quotes within quotes are left at the ends of a cleaned text, which is cleaned further when it is
cleaned again.  So the text is not read as a date, but what is left of it is. -/
theorem cleaned_keeps_inner_quotes :
    cleaned "' \"1403/01/05\" '" = "\"1403/01/05\"" ∧
    ¬Bare isQuote (cleaned "' \"1403/01/05\" '").toList ∧
    cleaned (cleaned "' \"1403/01/05\" '") = "1403/01/05" ∧
    cleaned (cleaned "' \"1403/01/05\" '") ≠ cleaned "' \"1403/01/05\" '" ∧
    Date.read .jalali "' \"1403/01/05\" '" = .error (.notANumeral "\"1403") ∧
    Date.read .jalali (cleaned "' \"1403/01/05\" '") = .ok ⟨⟨1403, 1, 5⟩⟩ := by
  refine ⟨rfl, ?_, rfl, by decide, rfl, rfl⟩
  intro hbare
  exact absurd (hbare.1 '"' rfl) (by decide)

end Text

end PersianCalendar
