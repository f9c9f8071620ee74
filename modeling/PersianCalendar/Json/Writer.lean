import PersianCalendar.Json.Basic
import PersianCalendar.Text.Decimal

/-!
# Writing JSON

Values are written without blanks.  In a string, the quote, the backslash and the control characters
are escaped, and every other character stands for itself.
-/

namespace PersianCalendar.Json

/-- The hexadecimal digit for a number below 16, in lower case. -/
def hexDigit (n : Nat) : Char := Nat.digitChar n

/-- A character as it stands in a string. -/
def escape (c : Char) : List Char :=
  if c = '"' then ['\\', '"']
  else if c = '\\' then ['\\', '\\']
  else if c = '\x08' then ['\\', 'b']
  else if c = '\t' then ['\\', 't']
  else if c = '\n' then ['\\', 'n']
  else if c = '\x0c' then ['\\', 'f']
  else if c = '\r' then ['\\', 'r']
  else if c.toNat < 32 then
    ['\\', 'u', '0', '0', hexDigit (c.toNat / 16), hexDigit (c.toNat % 16)]
  else [c]

/-- A string between quotes. -/
def quoted (s : String) : List Char :=
  '"' :: (s.toList.flatMap escape ++ ['"'])

mutual

/-- The characters of a value. -/
def chars : Json → List Char
  | null => ['n', 'u', 'l', 'l']
  | bool true => ['t', 'r', 'u', 'e']
  | bool false => ['f', 'a', 'l', 's', 'e']
  | integer n => Decimal.chars 0 n
  | real text => text.toList
  | string s => quoted s
  | array items => '[' :: charsOfItems items
  | object fields => '\x7b' :: charsOfFields fields

/-- The characters of the items of an array, with the closing bracket. -/
def charsOfItems : List Json → List Char
  | [] => [']']
  | [item] => chars item ++ [']']
  | item :: next :: items => chars item ++ ',' :: charsOfItems (next :: items)

/-- The characters of the fields of an object, with the closing brace. -/
def charsOfFields : List (String × Json) → List Char
  | [] => ['\x7d']
  | [(name, value)] => quoted name ++ ':' :: (chars value ++ ['\x7d'])
  | (name, value) :: next :: fields =>
    quoted name ++ ':' :: (chars value ++ ',' :: charsOfFields (next :: fields))

end

/-- The text of a value. -/
def text (j : Json) : String := String.ofList (chars j)

end PersianCalendar.Json
