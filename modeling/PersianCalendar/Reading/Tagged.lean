import PersianCalendar.Reading.YearFirst

/-!
# Dates that name their calendar

A tag in front of a date names its calendar: `J:1403/01/05`, `G:2024-03-24`.  Small letters will do.
-/

namespace PersianCalendar.Reading

/-- The calendar that a tag names. -/
def calendarOfTag? : List Char → Option Calendar
  | ['J'] => some .jalali
  | ['j'] => some .jalali
  | ['G'] => some .gregorian
  | ['g'] => some .gregorian
  | _ => none

/-- The texts before and after the first colon of a text. -/
def cutAtColon : List Char → Option (List Char × List Char)
  | [] => none
  | c :: cs =>
    if c = ':' then some ([], cs) else (cutAtColon cs).map fun (tag, rest) => (c :: tag, rest)

/-- The calendar that a cleaned text names in front of its first colon, and the text after it. -/
def tag? (cs : List Char) : Option (Calendar × List Char) := do
  let (tag, rest) ← cutAtColon cs
  return (← calendarOfTag? (Text.trim tag), rest)

/-- Reads the calendar and the fields of a date with a tag.  What stands after the tag is cleaned on
its own. -/
def taggedFields (cs : List Char) : Except ReadError (Calendar × Signed) :=
  let cs := Text.clean cs
  if cs = [] then .error .empty
  else match tag? cs with
    | none => .error (.noTag (String.ofList cs))
    | some (c, rest) => (signedFields rest).map fun s => (c, s)

end PersianCalendar.Reading

namespace PersianCalendar

/-- Reads a date that names its calendar. -/
def AnyDate.readTagged (s : String) : Except ReadError AnyDate := do
  let (c, fields) ← Reading.taggedFields s.toList
  ReadError.ofDate (AnyDate.ofYmd c fields.toYmd)

end PersianCalendar
