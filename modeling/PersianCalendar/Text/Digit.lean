/-!
# Digit scripts

The digits 0 to 9 are read in three scripts: the ASCII digits, the Persian ones and the Arabic-Indic
ones.  `western` turns a digit of any script into the ASCII digit, `persian` an ASCII digit into the
Persian one; both leave every other character alone.
-/

namespace PersianCalendar.Digit

/-- The Persian digits, zero first. -/
def persianDigits : List Char :=
  ['۰', '۱', '۲', '۳', '۴', '۵', '۶', '۷', '۸', '۹']

/-- The Arabic-Indic digits, zero first. -/
def arabicDigits : List Char :=
  ['٠', '١', '٢', '٣', '٤', '٥', '٦', '٧', '٨', '٩']

/-- The number that a Persian or an Arabic-Indic digit stands for. -/
def foreignValue? (c : Char) : Option Nat :=
  persianDigits.idxOf? c <|> arabicDigits.idxOf? c

/-- The ASCII digit of the same value, for a digit of any of the scripts. -/
def western (c : Char) : Char :=
  match foreignValue? c with
  | some n => Nat.digitChar n
  | none => c

/-- The Persian digit of the same value, for an ASCII digit. -/
def persian (c : Char) : Char :=
  if c.isDigit then persianDigits.getD (c.toNat - '0'.toNat) '۰' else c

/-- Every ASCII digit is the digit of a number below ten. -/
theorem digitChar_of_isDigit {c : Char} (h : c.isDigit) :
    c.toNat - '0'.toNat < 10 ∧ Nat.digitChar (c.toNat - '0'.toNat) = c := by
  simp only [Char.isDigit, Bool.and_eq_true, decide_eq_true_eq] at h
  have hlow : 48 ≤ c.toNat := UInt32.le_iff_toNat_le.1 h.1
  have hhigh : c.toNat ≤ 57 := UInt32.le_iff_toNat_le.1 h.2
  have hzero : '0'.toNat = 48 := rfl
  refine ⟨by omega, ?_⟩
  apply Char.toNat_inj.1
  rw [Nat.toNat_digitChar_of_lt_ten (by omega)]
  omega

/-- A digit keeps its value when it becomes Persian. -/
@[simp] theorem western_persian (c : Char) : western (persian c) = western c := by
  unfold persian
  split
  · rename_i h
    obtain ⟨hlt, hc⟩ := digitChar_of_isDigit h
    have hall : ∀ n < 10, western (persianDigits.getD n '۰') = western (Nat.digitChar n) := by
      decide
    rw [hall _ hlt, hc]
  · rfl

/-- A text with ASCII digits in place of those of the other scripts. -/
def toWestern (s : String) : String := String.ofList (s.toList.map western)

/-- A text with Persian digits in place of the ASCII ones. -/
def toPersian (s : String) : String := String.ofList (s.toList.map persian)

end PersianCalendar.Digit
