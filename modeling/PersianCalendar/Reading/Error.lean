import PersianCalendar.DateError

/-!
# Why a text is not read as a date
-/

namespace PersianCalendar

/-- The reasons for which a text is not read as a date. -/
inductive ReadError where
  /-- Nothing is left of the text once it is cleaned. -/
  | empty
  /-- The text does not fall into three fields. -/
  | notThreeFields (text : String)
  /-- A field is no numeral, or one that is too great. -/
  | notANumeral (field : String)
  /-- Both outer fields could be the year. -/
  | ambiguous (text : String)
  /-- No calendar is named in front of the date. -/
  | noTag (text : String)
  /-- The fields are read, but there is no such date. -/
  | date (error : DateError)
deriving DecidableEq, Repr

namespace ReadError

/-- The text that tells a reader of the error what was refused. -/
def message : ReadError → String
  | empty => "Empty date string"
  | notThreeFields text => "Invalid date format: " ++ text
  | notANumeral field => "Invalid number: " ++ field
  | ambiguous text => "Ambiguous date, cannot tell which field is the year: " ++ text
  | noTag text => "Missing or unknown calendar tag (expected J: or G:): " ++ text
  | date error => error.message

/-- Takes the error of a date for the error of the text it was read from. -/
def ofDate (r : Except DateError α) : Except ReadError α := r.mapError date

@[simp] theorem ofDate_eq_ok_iff {r : Except DateError α} {a : α} :
    ofDate r = .ok a ↔ r = .ok a := by
  cases r with
  | error e =>
    constructor
    · rintro ⟨⟩
    · rintro ⟨⟩
  | ok a =>
    constructor
    · rintro ⟨⟩
      rfl
    · rintro ⟨⟩
      rfl

@[simp] theorem ofDate_eq_error_iff {r : Except DateError α} {e : ReadError} :
    ofDate r = .error e ↔ ∃ e', r = .error e' ∧ e = date e' := by
  cases r with
  | error e' =>
    constructor
    · rintro ⟨⟩
      exact ⟨e', rfl, rfl⟩
    · rintro ⟨_, ⟨⟩, rfl⟩
      rfl
  | ok a =>
    constructor
    · rintro ⟨⟩
    · rintro ⟨_, ⟨⟩, -⟩

end ReadError

end PersianCalendar
