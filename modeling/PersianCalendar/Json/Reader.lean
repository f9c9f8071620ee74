import PersianCalendar.Json.Basic
import PersianCalendar.Text.Decimal

/-!
# Reading JSON

Each reader takes the characters at the front of a list and answers with what it read and the
characters that are left, or with nothing where no such thing stands in front.  `read?` reads one
value that takes up a whole text, blanks around it apart.
-/

namespace PersianCalendar.Json

/-- The blanks that may stand between the parts of a value. -/
def isSpace (c : Char) : Bool :=
  c = ' ' || c = '\t' || c = '\n' || c = '\r'

/-- What is left after leading blanks. -/
def skipSpaces (cs : List Char) : List Char :=
  cs.dropWhile isSpace

/-! ### Numbers -/

/-- Reads digits, at least one of them. -/
def readDigits (cs : List Char) : Option (List Char × List Char) :=
  let digits := cs.takeWhile Char.isDigit
  if digits = [] then none else some (digits, cs.dropWhile Char.isDigit)

/-- Reads the digits before a point: a lone zero, or digits of which the first is not zero. -/
def readWhole (cs : List Char) : Option (List Char × List Char) :=
  match readDigits cs with
  | some ('0' :: _ :: _, _) => none
  | other => other

/-- Reads a fraction, or nothing where no point stands in front. -/
def readFraction : List Char → Option (List Char × List Char)
  | '.' :: rest => (readDigits rest).map fun (digits, rest) => ('.' :: digits, rest)
  | rest => some ([], rest)

/-- Reads the exponent after its letter, with its sign. -/
def readSignedDigits : List Char → Option (List Char × List Char)
  | '+' :: rest => (readDigits rest).map fun (digits, rest) => ('+' :: digits, rest)
  | '-' :: rest => (readDigits rest).map fun (digits, rest) => ('-' :: digits, rest)
  | rest => readDigits rest

/-- Reads an exponent, or nothing where none stands in front. -/
def readExponent : List Char → Option (List Char × List Char)
  | 'e' :: rest => (readSignedDigits rest).map fun (digits, rest) => ('e' :: digits, rest)
  | 'E' :: rest => (readSignedDigits rest).map fun (digits, rest) => ('E' :: digits, rest)
  | rest => some ([], rest)

/-- The number with the given parts. -/
def ofParts (negative : Bool) (whole fraction exponent : List Char) : Json :=
  let sign : List Char := if negative then ['-'] else []
  if fraction = [] ∧ exponent = [] ∧ ¬(negative = true ∧ whole = ['0']) then
    integer (if negative then -(Decimal.value whole : Int) else Decimal.value whole)
  else real (String.ofList (sign ++ whole ++ fraction ++ exponent))

/-- Reads a number after its sign. -/
def readUnsigned (negative : Bool) (cs : List Char) : Option (Json × List Char) := do
  let (whole, rest) ← readWhole cs
  let (fraction, rest) ← readFraction rest
  let (exponent, rest) ← readExponent rest
  return (ofParts negative whole fraction exponent, rest)

/-- Reads a number. -/
def readNumber : List Char → Option (Json × List Char)
  | '-' :: rest => readUnsigned true rest
  | cs => readUnsigned false cs

/-! ### Strings -/

/-- The number that a hexadecimal digit stands for. -/
def hexValue? (c : Char) : Option Nat :=
  if '0' ≤ c ∧ c ≤ '9' then some (c.toNat - '0'.toNat)
  else if 'a' ≤ c ∧ c ≤ 'f' then some (c.toNat - 'a'.toNat + 10)
  else if 'A' ≤ c ∧ c ≤ 'F' then some (c.toNat - 'A'.toNat + 10)
  else none

/-- The code unit that four hexadecimal digits stand for. -/
def codeUnit? (a b c d : Char) : Option Nat := do
  let a ← hexValue? a
  let b ← hexValue? b
  let c ← hexValue? c
  let d ← hexValue? d
  return ((a * 16 + b) * 16 + c) * 16 + d

/-- The first halves of pairs that stand for one character above U+FFFF. -/
def IsHighSurrogate (unit : Nat) : Prop := 0xD800 ≤ unit ∧ unit < 0xDC00

/-- The second halves of such pairs. -/
def IsLowSurrogate (unit : Nat) : Prop := 0xDC00 ≤ unit ∧ unit < 0xE000

instance (unit : Nat) : Decidable (IsHighSurrogate unit) := inferInstanceAs (Decidable (_ ∧ _))

instance (unit : Nat) : Decidable (IsLowSurrogate unit) := inferInstanceAs (Decidable (_ ∧ _))

/-- The character that a letter stands for after a backslash. -/
def unescape? (c : Char) : Option Char :=
  if c = '"' ∨ c = '\\' ∨ c = '/' then some c
  else if c = 'b' then some '\x08'
  else if c = 'f' then some '\x0c'
  else if c = 'n' then some '\n'
  else if c = 'r' then some '\r'
  else if c = 't' then some '\t'
  else none

/-- Puts a character in front of what a reader took. -/
def consRead (c : Char) (read : Option (List Char × List Char)) :
    Option (List Char × List Char) :=
  read.map fun (cs, rest) => (c :: cs, rest)

/-- Reads the characters of a string up to and with its closing quote. -/
def readStringRest : List Char → Option (List Char × List Char)
  | [] => none
  | '"' :: rest => some ([], rest)
  | '\\' :: 'u' :: a :: b :: c :: d :: rest =>
    match codeUnit? a b c d with
    | none => none
    | some unit =>
      if IsLowSurrogate unit then none
      else if IsHighSurrogate unit then
        match rest with
        | '\\' :: 'u' :: a :: b :: c :: d :: rest =>
          match codeUnit? a b c d with
          | none => none
          | some low =>
            if IsLowSurrogate low then
              consRead (Char.ofNat (0x10000 + (unit - 0xD800) * 0x400 + (low - 0xDC00)))
                (readStringRest rest)
            else none
        | _ => none
      else consRead (Char.ofNat unit) (readStringRest rest)
  | '\\' :: c :: rest =>
    match unescape? c with
    | none => none
    | some c => consRead c (readStringRest rest)
  | c :: rest => if c.toNat < 32 then none else consRead c (readStringRest rest)

/-- Reads a string. -/
def readString : List Char → Option (String × List Char)
  | '"' :: rest => (readStringRest rest).map fun (cs, rest) => (String.ofList cs, rest)
  | _ => none

/-! ### Values -/

mutual

/-- Reads a value of which at most `depth` parts stand in one another or after one another. -/
def readValue : (depth : Nat) → List Char → Option (Json × List Char)
  | 0, _ => none
  | depth + 1, cs =>
    match skipSpaces cs with
    | 'n' :: 'u' :: 'l' :: 'l' :: rest => some (null, rest)
    | 't' :: 'r' :: 'u' :: 'e' :: rest => some (bool true, rest)
    | 'f' :: 'a' :: 'l' :: 's' :: 'e' :: rest => some (bool false, rest)
    | '[' :: rest =>
      match skipSpaces rest with
      | ']' :: rest => some (array [], rest)
      | rest => (readItems depth rest).map fun (items, rest) => (array items, rest)
    | '\x7b' :: rest =>
      match skipSpaces rest with
      | '\x7d' :: rest => some (object [], rest)
      | rest => (readFields depth rest).map fun (fields, rest) => (object fields, rest)
    | '"' :: rest => (readString ('"' :: rest)).map fun (s, rest) => (string s, rest)
    | rest => readNumber rest

/-- Reads the items of an array, at least one, up to and with the closing bracket. -/
def readItems : (depth : Nat) → List Char → Option (List Json × List Char)
  | 0, _ => none
  | depth + 1, cs =>
    match readValue depth cs with
    | none => none
    | some (item, rest) =>
      match skipSpaces rest with
      | ']' :: rest => some ([item], rest)
      | ',' :: rest => (readItems depth rest).map fun (items, rest) => (item :: items, rest)
      | _ => none

/-- Reads the fields of an object, at least one, up to and with the closing brace. -/
def readFields : (depth : Nat) → List Char → Option (List (String × Json) × List Char)
  | 0, _ => none
  | depth + 1, cs =>
    match readString (skipSpaces cs) with
    | none => none
    | some (name, rest) =>
      match skipSpaces rest with
      | ':' :: rest =>
        match readValue depth rest with
        | none => none
        | some (value, rest) =>
          match skipSpaces rest with
          | '\x7d' :: rest => some ([(name, value)], rest)
          | ',' :: rest =>
            (readFields depth rest).map fun (fields, rest) => (consField name value fields, rest)
          | _ => none
      | _ => none

end

/-- The value that a text stands for.  A part that stands in another one has its brackets around it,
and a part after another one its comma, so the length of the text bounds the depth of its parts. -/
def read? (text : String) : Option Json :=
  match readValue (text.toList.length + 1) text.toList with
  | some (value, rest) => if skipSpaces rest = [] then some value else none
  | none => none

end PersianCalendar.Json
