import Mathlib.Data.Char
import Mathlib.Data.List.Lex
import Mathlib.Order.Monotone.Basic
import Mathlib.Tactic.Tauto
import PersianCalendar.Proofs.Text.Decimal

/-!
# The order of texts

Texts are ordered by their first character that is not the same.  If the numbers in them take the same
places, this is the order of the numbers, those in front first: parts of the same length are compared
one after the other (`Text.append_lt_append_iff`), and numerals of the same length as their numbers
(`Decimal.chars_lt_chars_iff`).  Persian digits are ordered as the ASCII ones, and come after the
separators as these do, so a text in figures keeps its place when it becomes Persian
(`Digit.map_persian_lt_iff`).
-/

namespace PersianCalendar

/-! ### Texts in parts -/

namespace Text

variable {as bs cs ds : List Char}

/-- Of two texts the parts of the same length in front are compared first. -/
lemma append_lt_append_iff (h : as.length = bs.length) :
    as ++ cs < bs ++ ds ↔ as < bs ∨ as = bs ∧ cs < ds := by
  induction as generalizing bs with
  | nil =>
    rw [List.length_eq_zero_iff.1 h.symm]
    simp
  | cons a as ih =>
    cases bs with
    | nil => cases h
    | cons b bs =>
      rw [List.cons_append, List.cons_append, List.cons_lt_cons_iff, List.cons_lt_cons_iff,
        ih (Nat.succ.inj h), List.cons.injEq]
      tauto

/-- A map that keeps the order of some characters keeps the order of the texts of these characters. -/
lemma map_lt_map_iff {f : Char → Char} {chars : List Char}
    (hf : ∀ a ∈ chars, ∀ b ∈ chars, a < b → f a < f b) (has : ∀ a ∈ as, a ∈ chars)
    (hbs : ∀ b ∈ bs, b ∈ chars) : as.map f < bs.map f ↔ as < bs := by
  induction as generalizing bs with
  | nil => cases bs <;> simp
  | cons a as ih =>
    cases bs with
    | nil => simp
    | cons b bs =>
      obtain ⟨ha, has⟩ := List.forall_mem_cons.1 has
      obtain ⟨hb, hbs⟩ := List.forall_mem_cons.1 hbs
      have hmono : StrictMonoOn f {c | c ∈ chars} := fun a ha b hb => hf a ha b hb
      rw [List.map_cons, List.map_cons, List.cons_lt_cons_iff, List.cons_lt_cons_iff,
        hmono.lt_iff_lt ha hb, hmono.eq_iff_eq ha hb, ih has hbs]

end Text

/-! ### Figures -/

namespace Digit

/-- The characters of figures with separators between them. -/
def figures : List Char :=
  ['-', '/', '0', '1', '2', '3', '4', '5', '6', '7', '8', '9']

lemma mem_figures {c : Char} (h : c.isDigit ∨ c ∈ ['-', '/']) : c ∈ figures := by
  rcases h with h | h
  · obtain ⟨hlt, hc⟩ := digitChar_of_isDigit h
    have hall : ∀ n < 10, Nat.digitChar n ∈ figures := by decide
    rw [← hc]
    exact hall _ hlt
  · exact List.mem_append_left _ h

lemma persian_lt_persian {a b : Char} (ha : a ∈ figures) (hb : b ∈ figures) (h : a < b) :
    persian a < persian b := by
  have hall : figures.all fun a => figures.all fun b => a < b → persian a < persian b := by decide
  have hrow := List.all_eq_true.1 hall a ha
  exact of_decide_eq_true (List.all_eq_true.1 hrow b hb) h

/-- Text in figures is ordered alike with Persian digits. -/
lemma map_persian_lt_iff {as bs : List Char} (has : ∀ a ∈ as, a ∈ figures)
    (hbs : ∀ b ∈ bs, b ∈ figures) : as.map persian < bs.map persian ↔ as < bs :=
  Text.map_lt_map_iff (fun _ ha _ hb => persian_lt_persian ha hb) has hbs

end Digit

/-! ### Numerals -/

namespace Decimal

variable {width : Nat} {k l : Int}

/-- Of two numbers with a digit behind each, the numbers are compared first, then the digits, and then
what comes after them. -/
lemma ten_mul_add_lt_or_eq_and_iff {m n i j : Nat} (hi : i < 10) (hj : j < 10) {p : Prop} :
    (10 * m + i < 10 * n + j ∨ 10 * m + i = 10 * n + j ∧ p) ↔
      m < n ∨ m = n ∧ (i < j ∨ i = j ∧ p) := by
  by_cases hp : p
  · simp only [hp, and_true]
    omega
  · simp only [hp, and_false, or_false]
    omega

lemma digit_lt_iff {a b : Char} (ha : a.isDigit) (hb : b.isDigit) :
    a < b ↔ a.toNat - '0'.toNat < b.toNat - '0'.toNat := by
  obtain ⟨hi, hai⟩ := Digit.digitChar_of_isDigit ha
  obtain ⟨hj, hbj⟩ := Digit.digitChar_of_isDigit hb
  have hall : ∀ i < 10, ∀ j < 10, Nat.digitChar i < Nat.digitChar j ↔ i < j := by decide
  have hlt := hall _ hi _ hj
  rwa [hai, hbj] at hlt

/-- Runs of digits of one length, each behind a number, are ordered by these numbers first. -/
lemma ofDigitChars_lt_iff {as bs : List Char} (has : ∀ a ∈ as, a.isDigit)
    (hbs : ∀ b ∈ bs, b.isDigit) (h : as.length = bs.length) {m n : Nat} :
    Nat.ofDigitChars 10 as m < Nat.ofDigitChars 10 bs n ↔ m < n ∨ m = n ∧ as < bs := by
  -- on the digits; those already read are in the numbers
  induction as generalizing bs m n with
  | nil =>
    rw [List.length_eq_zero_iff.1 h.symm]
    simp
  | cons a as ih =>
    cases bs with
    | nil => cases h
    | cons b bs =>
      obtain ⟨ha, has⟩ := List.forall_mem_cons.1 has
      obtain ⟨hb, hbs⟩ := List.forall_mem_cons.1 hbs
      obtain ⟨hi, hai⟩ := Digit.digitChar_of_isDigit ha
      obtain ⟨hj, hbj⟩ := Digit.digitChar_of_isDigit hb
      have heq : a.toNat - '0'.toNat = b.toNat - '0'.toNat ↔ a = b :=
        ⟨fun hcode => by rw [← hai, ← hbj, hcode], fun hab => by rw [hab]⟩
      rw [Nat.ofDigitChars_cons, Nat.ofDigitChars_cons, ih has hbs (Nat.succ.inj h),
        ten_mul_add_lt_or_eq_and_iff hi hj, List.cons_lt_cons_iff, digit_lt_iff ha hb, heq]

/-- Runs of digits of one length are ordered as the numbers that they stand for. -/
lemma value_lt_value_iff {as bs : List Char} (has : ∀ a ∈ as, a.isDigit) (hbs : ∀ b ∈ bs, b.isDigit)
    (h : as.length = bs.length) : value as < value bs ↔ as < bs := by
  rw [value, value, ofDigitChars_lt_iff has hbs h]
  simp

/-- The number is not negative and has no more digits than there are places. -/
def Fits (width : Nat) (k : Int) : Prop :=
  0 ≤ k ∧ (Nat.toDigits 10 k.toNat).length ≤ width

lemma length_chars (h : Fits width k) : (chars width k).length = width := by
  rw [chars_of_nonneg width h.1, padded, List.length_leftpad]
  exact Nat.max_eq_left h.2

/-- Numerals of the same places are ordered as their numbers. -/
lemma chars_lt_chars_iff (hk : Fits width k) (hl : Fits width l) :
    chars width k < chars width l ↔ k < l := by
  have hlength : (chars width k).length = (chars width l).length := by
    rw [length_chars hk, length_chars hl]
  rw [chars_of_nonneg width hk.1, chars_of_nonneg width hl.1] at hlength ⊢
  rw [← value_lt_value_iff (fun _ => isDigit_of_mem_padded) (fun _ => isDigit_of_mem_padded) hlength]
  simp [Int.lt_toNat, Int.toNat_of_nonneg hk.1]

end Decimal

end PersianCalendar
