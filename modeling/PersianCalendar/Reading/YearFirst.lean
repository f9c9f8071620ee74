import PersianCalendar.Date.AnyDate
import PersianCalendar.Reading.Fields

/-!
# Dates with the year in front

A date of a known calendar is typed as year, month and day.  A minus sign in front makes the year
negative.
-/

namespace PersianCalendar.Reading

/-- A year, month and day as they are typed, the year with its sign apart. -/
structure Signed where
  /-- A minus sign stands in front. -/
  negative : Bool
  /-- The numbers of the fields. -/
  numbers : Triple Nat
deriving DecidableEq, Repr

/-- The year, month and day that are meant. -/
def Signed.toYmd (s : Signed) : Ymd :=
  { s.numbers.toYmd with
    year := if s.negative then -(s.numbers.first : Int) else s.numbers.first }

/-- Reads a cleaned text. -/
def signedOfCleaned : List Char → Except ReadError Signed
  | [] => .error .empty
  | '-' :: rest => (numbers rest).map (Signed.mk true)
  | cs => (numbers cs).map (Signed.mk false)

/-- Reads a text as three fields with the year in front. -/
def signedFields (cs : List Char) : Except ReadError Signed := signedOfCleaned (Text.clean cs)

/-- Reads a text as a year, a month and a day. -/
def yearFirst (cs : List Char) : Except ReadError Ymd := (signedFields cs).map Signed.toYmd

/-- Reads the characters of a date of a calendar. -/
def dateOfChars (c : Calendar) (cs : List Char) : Except ReadError (Date c) := do
  ReadError.ofDate (Date.ofYmd c (← yearFirst cs))

theorem dateOfChars_eq_ok_iff {c : Calendar} {cs : List Char} {d : Date c} :
    dateOfChars c cs = .ok d ↔ ∃ f, yearFirst cs = .ok f ∧ Date.ofYmd c f = .ok d := by
  unfold dateOfChars
  cases yearFirst cs with
  | error e => simp [bind, Except.bind]
  | ok f => simp [bind, Except.bind]

theorem dateOfChars_eq_error_iff {c : Calendar} {cs : List Char} {e : ReadError} :
    dateOfChars c cs = .error e ↔ yearFirst cs = .error e ∨
      ∃ f, yearFirst cs = .ok f ∧ ∃ e', Date.ofYmd c f = .error e' ∧ e = .date e' := by
  unfold dateOfChars
  cases yearFirst cs with
  | error e => simp [bind, Except.bind]
  | ok f => simp [bind, Except.bind]

end PersianCalendar.Reading

namespace PersianCalendar

/-- Reads a date of a calendar, with the year in front. -/
def Date.read (c : Calendar) (s : String) : Except ReadError (Date c) :=
  Reading.dateOfChars c s.toList

end PersianCalendar
