import PersianCalendar.Json.Basic
import PersianCalendar.Reading.Error

/-!
# Forms of values in JSON

A form says how the values of a type are written in JSON and what is read as one of them.  The forms
of the parts of a record, with the names of its fields, are put together in a list (`Fields`).
-/

namespace PersianCalendar.Json

/-- Why a value is not read as a date. -/
inductive Refusal where
  /-- The value has not the form that is asked for. -/
  | shape
  /-- The value has the form, but the text of its date is refused. -/
  | text (error : ReadError)
deriving DecidableEq, Repr

/-- The way in which the values of a type stand in JSON. -/
structure Form (α : Type) where
  /-- The JSON value that is written for a value. -/
  toJson : α → Json
  /-- The value that is read from a JSON value. -/
  ofJson : Json → Except Refusal α

namespace Form

variable {α β : Type}

/-- The form of the values of a type for those of another one that correspond to them. -/
def along (F : Form α) (f : α → β) (g : β → α) : Form β where
  toJson y := F.toJson (g y)
  ofJson j := (F.ofJson j).map f

/-- Some JSON value is read as `x`. -/
def Accepts (F : Form α) (x : α) : Prop :=
  ∃ j, F.ofJson j = .ok x

end Form

/-- The fields of a record in their order, with the forms of their values.  The values of the record
are the values of its fields, one behind the other. -/
inductive Fields : Type → Type 1 where
  /-- No field. -/
  | nil : Fields Unit
  /-- One field more, in front of the others. -/
  | cons {α β : Type} (name : String) (form : Form α) (rest : Fields β) : Fields (α × β)

namespace Fields

/-- The names of the fields. -/
def names : {α : Type} → Fields α → List String
  | _, nil => []
  | _, cons name _ rest => name :: rest.names

/-- The fields of the object that is written for a record. -/
def toJson : {α : Type} → Fields α → α → List (String × Json)
  | _, nil, _ => []
  | _, cons name form rest, (x, xs) => (name, form.toJson x) :: rest.toJson xs

/-- The value of each field is read from a field of its name among those of an object. -/
def Reads (fields : List (String × Json)) : {α : Type} → Fields α → α → Prop
  | _, nil, _ => True
  | _, cons name form rest, (x, xs) =>
    (∃ j, (name, j) ∈ fields ∧ form.ofJson j = .ok x) ∧ rest.Reads fields xs

/-- The value of each field is one that its form accepts. -/
def Accepts : {α : Type} → Fields α → α → Prop
  | _, nil, _ => True
  | _, cons _ form rest, (x, xs) => form.Accepts x ∧ rest.Accepts xs

end Fields

end PersianCalendar.Json
