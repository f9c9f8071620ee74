import Mathlib.Data.List.Induction
import Mathlib.Tactic.Lemma
import PersianCalendar.Text.Decimal
import PersianCalendar.Text.Digit

/-!
# Padded numerals

A number is written as its sign and the padded digits of its absolute value (`chars_of_neg`,
`chars_of_nonneg`).  Padding changes neither what the digits stand for (`value_padded`) nor that they
are digits, and every run of digits is some number padded to the length of the run
(`eq_padded_of_digits`).  Two numbers are not written alike (`chars_injective`).  Without padding, a
number is written as `toString` writes it (`toList_toString`), and only the numeral of 0 starts with a
zero (`head?_toDigits`).
-/

namespace PersianCalendar.Decimal

/-- The digits of a number, with zeros in front up to `width` places. -/
def padded (width n : Nat) : List Char :=
  (Nat.toDigits 10 n).leftpad width '0'

variable {width n : Nat}

lemma chars_of_neg (width : Nat) {k : Int} (h : k < 0) :
    chars width k = '-' :: padded (width - 1) k.natAbs :=
  if_pos h

lemma chars_of_nonneg (width : Nat) {k : Int} (h : 0 ≤ k) : chars width k = padded width k.toNat := by
  have habs : k.natAbs = k.toNat := by omega
  rw [chars, if_neg (Int.not_lt.2 h), habs]
  rfl

lemma isDigit_of_mem_padded {c : Char} (h : c ∈ padded width n) : c.isDigit := by
  rcases List.mem_append.1 h with h | h
  · rw [List.eq_of_mem_replicate h]
    rfl
  · exact Nat.isDigit_of_mem_toDigits (by decide) (by decide) h

lemma isDigit_or_eq_of_mem_chars {c : Char} {k : Int} (h : c ∈ chars width k) :
    c.isDigit ∨ c = '-' := by
  rcases Int.lt_or_le k 0 with hk | hk
  · rw [chars_of_neg width hk] at h
    rcases List.mem_cons.1 h with h | h
    · exact Or.inr h
    · exact Or.inl (isDigit_of_mem_padded h)
  · rw [chars_of_nonneg width hk] at h
    exact Or.inl (isDigit_of_mem_padded h)

lemma padded_ne_nil (width n : Nat) : padded width n ≠ [] :=
  List.append_ne_nil_of_right_ne_nil _ Nat.toDigits_ne_nil

/-- Zeros in front of a numeral leave its number as it is. -/
@[simp] lemma value_padded (width n : Nat) : value (padded width n) = n := by
  simp only [value, padded, List.leftpad, Nat.ofDigitChars_append,
    Nat.ofDigitChars_replicate_zero, Nat.mul_zero]
  exact value_toDigits n

lemma padded_injective (width : Nat) : Function.Injective (padded width) :=
  Function.LeftInverse.injective (value_padded width)

/-- Two numbers are not written alike. -/
lemma chars_injective (width : Nat) : Function.Injective (chars width) := by
  have hsign : ∀ {k : Int}, k < 0 ↔ '-' ∈ chars width k := by
    intro k
    rcases Int.lt_or_le k 0 with hk | hk
    · rw [chars_of_neg width hk]
      exact iff_of_true hk List.mem_cons_self
    · rw [chars_of_nonneg width hk]
      -- the minus sign is no digit
      exact iff_of_false (Int.not_lt.2 hk) fun hmem => absurd (isDigit_of_mem_padded hmem) (by decide)
  intro k l h
  have hkl : k < 0 ↔ l < 0 := by rw [hsign, h, ← hsign]
  rcases Int.lt_or_le k 0 with hk | hk
  · have hl := hkl.1 hk
    rw [chars_of_neg width hk, chars_of_neg width hl, List.cons.injEq] at h
    have habs := padded_injective _ h.2
    omega
  · have hl : 0 ≤ l := Int.not_lt.1 fun hl => absurd (hkl.2 hl) (Int.not_lt.2 hk)
    rw [chars_of_nonneg width hk, chars_of_nonneg width hl] at h
    have hnat := padded_injective _ h
    omega

/-- Without padding the characters of a number are those of `toString`. -/
@[simp] lemma toList_toString (k : Int) : (toString k).toList = chars 0 k := by
  have hdigits : ∀ n : Nat, n.repr.toList = padded 0 n := by
    intro n
    rw [Nat.toList_repr, padded, List.leftpad, Nat.zero_sub]
    rfl
  rw [Int.toString_eq_repr, Int.repr_eq_if]
  rcases Int.lt_or_le k 0 with hk | hk
  · have habs : (-k).toNat = k.natAbs := by omega
    rw [if_neg (Int.not_le.2 hk), chars_of_neg 0 hk, String.toList_append, hdigits, habs]
    rfl
  · rw [if_pos hk, chars_of_nonneg 0 hk, hdigits]

/-- The numeral of a positive number starts with no zero. -/
lemma head?_toDigits (h : 0 < n) : (Nat.toDigits 10 n).head? ≠ some '0' := by
  induction n using Nat.strongRecOn with
  | ind n ih =>
    rcases Nat.lt_or_ge n 10 with hlt | hge
    · have hdigit : ∀ d < 10, 0 < d → Nat.digitChar d ≠ '0' := by decide
      rw [Nat.toDigits_of_lt_base hlt, List.head?_singleton]
      exact fun hzero => hdigit n hlt h (Option.some.inj hzero)
    · rw [Nat.toDigits_of_base_le (by decide) hge, List.head?_append,
        Option.or_of_isSome (List.isSome_head?.2 Nat.toDigits_ne_nil)]
      exact ih (n / 10) (Nat.div_lt_self h (by decide)) (Nat.div_pos hge (by decide))

/-! ### Runs of digits -/

lemma padded_of_lt_ten (width : Nat) {d : Nat} (hd : d < 10) :
    padded width d = List.replicate (width - 1) '0' ++ [Nat.digitChar d] := by
  rw [padded, List.leftpad, Nat.toDigits_of_lt_base hd, List.length_singleton]

/-- A numeral with one more digit behind it is a numeral again, of one more place. -/
lemma padded_append_digit {d : Nat} (hwidth : 0 < width) (hd : d < 10) :
    padded width n ++ [Nat.digitChar d] = padded (width + 1) (10 * n + d) := by
  rcases Nat.eq_zero_or_pos n with rfl | hn
  · -- the digit of 0 is one more zero in front of the new digit
    have hzero : Nat.digitChar 0 = '0' := rfl
    rw [Nat.mul_zero, Nat.zero_add, padded_of_lt_ten width (by decide),
      padded_of_lt_ten (width + 1) hd, hzero, ← List.replicate_succ',
      Nat.sub_add_cancel hwidth, Nat.add_sub_cancel]
  · have hdigits : Nat.toDigits 10 (10 * n + d) = Nat.toDigits 10 n ++ [Nat.digitChar d] := by
      rw [← Nat.toDigits_append_toDigits (by decide) hn hd, Nat.toDigits_of_lt_base hd]
    simp only [padded, List.leftpad, hdigits, List.length_append, List.length_singleton,
      Nat.add_sub_add_right, List.append_assoc]

lemma value_append_digit {cs : List Char} {d : Nat} (hd : d < 10) :
    value (cs ++ [Nat.digitChar d]) = 10 * value cs + d := by
  have hzero : '0'.toNat = 48 := rfl
  have hcode : (Nat.digitChar d).toNat - '0'.toNat = d := by
    rw [Nat.toNat_digitChar_of_lt_ten hd, hzero, Nat.add_sub_cancel_left]
  rw [value, Nat.ofDigitChars_append, Nat.ofDigitChars_cons, hcode]
  rfl

/-- A run of digits is the number it stands for, padded to the length of the run. -/
lemma eq_padded_of_digits {cs : List Char} (h0 : cs ≠ []) (h : ∀ c ∈ cs, c.isDigit) :
    cs = padded cs.length (value cs) := by
  induction cs using List.reverseRecOn with
  | nil => exact absurd rfl h0
  | append_singleton cs c ih =>
    obtain ⟨hd, hc⟩ :=
      Digit.digitChar_of_isDigit (h c (List.mem_append_right cs List.mem_cons_self))
    rw [← hc, value_append_digit hd, List.length_append, List.length_singleton]
    by_cases hcs : cs = []
    · have hempty : value [] = 0 := rfl
      rw [hcs, hempty, Nat.mul_zero, Nat.zero_add]
      exact (padded_of_lt_ten 1 hd).symm
    · have hrest := ih hcs fun x hx => h x (List.mem_append_left _ hx)
      rw [← padded_append_digit (List.length_pos_iff.2 hcs) hd, ← hrest]

end PersianCalendar.Decimal
