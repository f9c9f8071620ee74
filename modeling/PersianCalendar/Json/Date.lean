import PersianCalendar.Date.Written
import PersianCalendar.Json.Backend
import PersianCalendar.Reading.YearFirst

/-!
# Dates in JSON

A date is a string that holds its text.  A calendar goes by its name, a date with its calendar has
the fields `calendar` and `date`, and the start of a Jalali year the fields `gregorian_year`,
`march_day` and `is_leap`; their forms are those that a backend derives from this.
-/

namespace PersianCalendar

open Json (Refusal)

namespace Calendar

/-- Both calendars. -/
def all : List Calendar := [jalali, gregorian]

/-- The name of a calendar in JSON. -/
def key : Calendar → String
  | jalali => "jalali"
  | gregorian => "gregorian"

/-- The form of a calendar. -/
def form (B : Json.Backend) : Json.Form Calendar := B.choice all key

end Calendar

namespace Date

/-- A date as a JSON value. -/
def toJson {c : Calendar} (d : Date c) : Json := .string d.text

/-- Reads a date of a calendar from a string. -/
def ofJson (c : Calendar) : Json → Except Refusal (Date c)
  | .string s => (Date.read c s).mapError .text
  | _ => .error .shape

/-- The form of a date. -/
def form (c : Calendar) : Json.Form (Date c) := ⟨toJson, ofJson c⟩

@[simp] theorem toJson_form {c : Calendar} (d : Date c) : (form c).toJson d = .string d.text := rfl

@[simp] theorem ofJson_form (c : Calendar) (j : Json) : (form c).ofJson j = ofJson c j := rfl

end Date

namespace AnyDate

/-- The form of a date with its calendar. -/
def form (B : Json.Backend) : Json.Form AnyDate :=
  (B.tagged "calendar" "date" Calendar.all Calendar.key Date.form).along
    (fun ⟨c, d⟩ => ⟨c, d⟩) (fun d => ⟨d.calendar, d.date⟩)

end AnyDate

namespace Jalali.YearStart

/-- The fields of the start of a year. -/
def fields (B : Json.Backend) : Json.Fields (Int × Int × Bool × Unit) :=
  .cons "gregorian_year" B.int32 (.cons "march_day" B.int32 (.cons "is_leap" B.bool .nil))

/-- The form of the start of a year.  Nothing says that there is a year that starts on that day. -/
def form (B : Json.Backend) : Json.Form YearStart :=
  (B.record (fields B)).along (fun ⟨y, m, l, ()⟩ => ⟨y, m, l⟩)
    (fun s => ⟨s.gregorianYear, s.marchDay, s.isLeap, ()⟩)

end Jalali.YearStart

end PersianCalendar
