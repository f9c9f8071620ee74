import Mathlib.Tactic.Lemma
import PersianCalendar.Json.Reader
import PersianCalendar.Json.Writer

/-!
# JSON strings read back

A character is read back from the way it is escaped (`readStringRest_escape`), and so is every string
from its text (`readValue_quoted`), whatever characters it holds.
-/

namespace PersianCalendar.Json

/-! ### Characters -/

/-- A character is escaped by a letter, by its number, or not at all. -/
lemma escape_cases (c : Char) :
    (∃ x, escape c = ['\\', x] ∧ x ≠ 'u' ∧ unescape? x = some c) ∨
      (c.toNat < 32 ∧
        escape c = ['\\', 'u', '0', '0', hexDigit (c.toNat / 16), hexDigit (c.toNat % 16)]) ∨
      (escape c = [c] ∧ c ≠ '"' ∧ c ≠ '\\' ∧ 32 ≤ c.toNat) := by
  by_cases hletter : c ∈ ['"', '\\', '\x08', '\t', '\n', '\x0c', '\r']
  · refine Or.inl ?_
    simp only [List.mem_cons, List.not_mem_nil, or_false] at hletter
    rcases hletter with rfl | rfl | rfl | rfl | rfl | rfl | rfl
    · exact ⟨'"', by decide⟩
    · exact ⟨'\\', by decide⟩
    · exact ⟨'b', by decide⟩
    · exact ⟨'t', by decide⟩
    · exact ⟨'n', by decide⟩
    · exact ⟨'f', by decide⟩
    · exact ⟨'r', by decide⟩
  · simp only [List.mem_cons, List.not_mem_nil, or_false, not_or] at hletter
    obtain ⟨hquote, hbackslash, hb, ht, hn, hf, hr⟩ := hletter
    simp only [escape, hquote, hbackslash, hb, ht, hn, hf, hr, if_false]
    by_cases hcontrol : c.toNat < 32
    · exact Or.inr (Or.inl ⟨hcontrol, if_pos hcontrol⟩)
    · exact Or.inr (Or.inr ⟨if_neg hcontrol, hquote, hbackslash, Nat.not_lt.1 hcontrol⟩)

/-- Four hexadecimal digits stand for the control character they were written for. -/
lemma codeUnit?_hexDigit {n : Nat} (h : n < 32) :
    codeUnit? '0' '0' (hexDigit (n / 16)) (hexDigit (n % 16)) = some n := by
  have hall : ∀ n < 32, codeUnit? '0' '0' (hexDigit (n / 16)) (hexDigit (n % 16)) = some n := by
    decide
  exact hall n h

@[simp] lemma readStringRest_escape (c : Char) (cs : List Char) :
    readStringRest (escape c ++ cs) = consRead c (readStringRest cs) := by
  rcases escape_cases c with ⟨x, hescape, hx, hc⟩ | ⟨hcontrol, hescape⟩ |
    ⟨hescape, hquote, hbackslash, hprinted⟩
  · rw [hescape, List.cons_append, List.cons_append, List.nil_append, readStringRest]
    · rw [hc]
    · rintro a b d e rest rfl
      exact absurd rfl hx
  · rw [hescape]
    have hlow : ¬IsLowSurrogate c.toNat := by
      simp only [IsLowSurrogate]
      omega
    have hhigh : ¬IsHighSurrogate c.toNat := by
      simp only [IsHighSurrogate]
      omega
    simp only [List.cons_append, List.nil_append]
    rw [readStringRest, codeUnit?_hexDigit hcontrol]
    simp only [if_neg hlow, if_neg hhigh, Char.ofNat_toNat]
  · rw [hescape, List.singleton_append, readStringRest]
    · exact if_neg (Nat.not_lt.2 hprinted)
    · exact hquote
    · intro a b d e rest hc
      exact absurd hc hbackslash
    · intro a rest hc
      exact absurd hc hbackslash

/-! ### Strings -/

@[simp] lemma readStringRest_flatMap (cs rest : List Char) :
    readStringRest (cs.flatMap escape ++ '"' :: rest) = some (cs, rest) := by
  induction cs with
  | nil => rfl
  | cons c cs ih =>
    rw [List.flatMap_cons, List.append_assoc, readStringRest_escape, ih]
    rfl

@[simp] lemma readString_quoted (s : String) (rest : List Char) :
    readString (quoted s ++ rest) = some (s, rest) := by
  have hrest := readStringRest_flatMap s.toList rest
  rw [quoted, List.cons_append, List.append_assoc, List.singleton_append, readString, hrest]
  simp only [Option.map_some, String.ofList_toList]

/-! ### Values -/

lemma skipSpaces_cons {c : Char} (h : isSpace c = false) (cs : List Char) :
    skipSpaces (c :: cs) = c :: cs :=
  List.dropWhile_cons_of_neg (Bool.eq_false_iff.1 h)

@[simp] lemma skipSpaces_quoted (s : String) (rest : List Char) :
    skipSpaces (quoted s ++ rest) = quoted s ++ rest :=
  skipSpaces_cons (by decide) _

/-- A quoted string is the value in front of what stands behind it. -/
lemma readValue_quoted (depth : Nat) (s : String) (rest : List Char) :
    readValue (depth + 1) (quoted s ++ rest) = some (.string s, rest) := by
  have hread := readString_quoted s rest
  rw [readValue, skipSpaces_quoted]
  rw [quoted, List.cons_append] at hread ⊢
  simp only [hread, Option.map_some]

end PersianCalendar.Json
