/-!
# JSON values

A value is kept as it is written: the fields of an object stand in their order, and a number is an
integer only when it is written as one.  `2024.0`, `2e3` and `-0` are numbers, but no integers.
-/

namespace PersianCalendar

/-- A JSON value. -/
inductive Json where
  /-- The value `null`. -/
  | null
  /-- One of the values `true` and `false`. -/
  | bool (b : Bool)
  /-- A number written without fraction and exponent. -/
  | integer (n : Int)
  /-- Any other number, by its text. -/
  | real (text : String)
  /-- A string, with its escapes resolved. -/
  | string (s : String)
  /-- The items between square brackets. -/
  | array (items : List Json)
  /-- The fields between braces. -/
  | object (fields : List (String × Json))
deriving BEq, Repr

namespace Json

/-- The value of a field of an object. -/
def field? (name : String) (fields : List (String × Json)) : Option Json :=
  fields.lookup name

/-- Puts a field in front of others, unless one of them has its name: of several fields with one
name the last one counts. -/
def consField (name : String) (value : Json) (fields : List (String × Json)) :
    List (String × Json) :=
  if (field? name fields).isSome then fields else (name, value) :: fields

end Json

end PersianCalendar
