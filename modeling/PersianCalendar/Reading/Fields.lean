import PersianCalendar.Reading.Error
import PersianCalendar.Text.Clean
import PersianCalendar.Width

/-!
# The three fields of a date

A date is typed as three numerals with a separator between them.  Blanks around a field are left
out.
-/

namespace PersianCalendar.Reading

/-- The characters between fields. -/
def separators : List Char := ['/', '-', '.', '\u066b']

/-- Whether a character stands between fields. -/
def isSeparator (c : Char) : Bool := separators.contains c

/-- The three fields of a date in the order in which they stand. -/
structure Triple (α : Type) where
  /-- The first field. -/
  first : α
  /-- The field in the middle. -/
  middle : α
  /-- The last field. -/
  last : α
deriving DecidableEq, Repr

namespace Triple

/-- The fields in the opposite order. -/
def swap (t : Triple α) : Triple α := ⟨t.last, t.middle, t.first⟩

/-- Applies a function that may fail to the fields, one after the other. -/
def traverse (f : α → Except ε β) (t : Triple α) : Except ε (Triple β) := do
  return ⟨← f t.first, ← f t.middle, ← f t.last⟩

/-- The year, month and day of numbers that stand in this order. -/
def toYmd (t : Triple Nat) : Ymd := ⟨t.first, t.middle, t.last⟩

end Triple

/-- The parts of a text between its separators, without the blanks around them. -/
def parts (cs : List Char) : List (List Char) :=
  (cs.splitOnP isSeparator).map Text.trim

/-- Splits a text into its fields, of which none may be empty. -/
def split (cs : List Char) : Except ReadError (Triple (List Char)) :=
  match parts cs with
  | [first, middle, last] =>
    if first = [] ∨ middle = [] ∨ last = [] then .error (.notThreeFields (String.ofList cs))
    else .ok ⟨first, middle, last⟩
  | _ => .error (.notThreeFields (String.ofList cs))

/-- The digits stand for a number of 32 bits. -/
def IsNumeral (cs : List Char) : Prop :=
  (∀ c ∈ cs, c.isDigit) ∧ (Decimal.value cs : Int) ≤ Width.signed32.greatest

-- The digits are looked at one by one; by default all characters there are could be gone through.
instance (cs : List Char) : Decidable (IsNumeral cs) :=
  @instDecidableAnd _ _ (List.decidableBAll (fun c => c.isDigit) cs) inferInstance

/-- The number that a field stands for. -/
def numeral (cs : List Char) : Except ReadError Nat :=
  if IsNumeral cs then .ok (Decimal.value cs) else .error (.notANumeral (String.ofList cs))

/-- The numbers of the three fields of a text.  The first field that is no numeral is the one that
is refused. -/
def numbers (cs : List Char) : Except ReadError (Triple Nat) := do
  (← split cs).traverse numeral

end PersianCalendar.Reading
