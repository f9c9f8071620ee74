import PersianCalendar.Proofs.Text.Trim
import PersianCalendar.Text.Clean

/-!
# Texts that cleaning leaves alone

Cleaning takes characters from the ends of a text, marks from anywhere, and brings the digits of other
scripts into ASCII.  A text of `Plain` characters loses nothing but the quotes at its ends
(`clean_of_plain`), and Persian digits are cleaned to the ASCII ones they came from
(`clean_map_persian`).
-/

namespace PersianCalendar.Text

variable {cs : List Char}

/-! ### Plain characters -/

/-- A character that stays in its place when a text is cleaned, unless it is a quote at an end: no
digit of another script, no mark and no blank. -/
def Plain (c : Char) : Prop :=
  Digit.western c = c ∧ isMark c = false ∧ isBlank c = false

instance (c : Char) : Decidable (Plain c) :=
  inferInstanceAs (Decidable (_ ∧ _))

lemma plain_of_isDigit {c : Char} (h : c.isDigit) : Plain c ∧ isQuote c = false := by
  obtain ⟨hlt, hc⟩ := Digit.digitChar_of_isDigit h
  have hall : ∀ n < 10, Plain (Nat.digitChar n) ∧ isQuote (Nat.digitChar n) = false := by decide
  rw [← hc]
  exact hall _ hlt

/-- ASCII digits stay, and so does everything else but the marks. -/
lemma plain_of_western (h : ∀ c ∈ cs, Digit.western c = c ∧ isMark c = false) : plain cs = cs := by
  have hwestern : cs.map Digit.western = cs :=
    (List.map_congr_left fun c hc => (h c hc).1).trans (List.map_id cs)
  rw [plain, hwestern, dropMarks, List.filter_eq_self]
  intro c hc
  rw [(h c hc).2]
  rfl

lemma plain_eq_self (h : ∀ c ∈ cs, Plain c) : plain cs = cs :=
  plain_of_western fun c hc => ⟨(h c hc).1, (h c hc).2.1⟩

lemma clean_of_plain (h : ∀ c ∈ cs, Plain c) : clean cs = trimWhere isQuote cs := by
  have htrim : trim cs = cs := trimWhere_eq_self fun c hc => (h c hc).2.2
  rw [clean, plain_eq_self h, htrim]
  exact trimWhere_eq_self fun c hc => (h c (mem_of_mem_trimWhere hc)).2.2

lemma clean_eq_self (h : ∀ c ∈ cs, Plain c ∧ isQuote c = false) : clean cs = cs := by
  rw [clean_of_plain fun c hc => (h c hc).1]
  exact trimWhere_eq_self fun c hc => (h c hc).2

/-- Quotes around a plain text are taken off. -/
lemma clean_quoted (h : ∀ c ∈ cs, Plain c ∧ isQuote c = false) :
    clean ('"' :: (cs ++ ['"'])) = cs := by
  have hplain : ∀ c ∈ '"' :: (cs ++ ['"']), Plain c := by
    intro c hc
    simp only [List.mem_cons, List.mem_append, List.not_mem_nil, or_false] at hc
    rcases hc with rfl | hc | rfl
    · decide
    · exact (h c hc).1
    · decide
  have hquote : ∀ c ∈ ['"'], isQuote c := by
    intro c hc
    rw [List.mem_singleton.1 hc]
    rfl
  have hquotes : trimWhere isQuote (['"'] ++ cs ++ ['"']) = trimWhere isQuote cs :=
    trimWhere_append hquote hquote
  rw [clean_of_plain hplain]
  refine Eq.trans hquotes ?_
  exact trimWhere_eq_self fun c hc => (h c hc).2

lemma plain_map_persian (cs : List Char) : plain (cs.map Digit.persian) = plain cs := by
  simp [plain, Function.comp_def]

/-- Persian digits are cleaned to the ASCII digits they came from. -/
@[simp] lemma clean_map_persian (cs : List Char) : clean (cs.map Digit.persian) = clean cs := by
  rw [clean, clean, plain_map_persian]

end PersianCalendar.Text
