/-!
# Decimal numerals

Whole numbers are written with the digits 0 to 9 and without leading zeros, or padded with zeros to
a least width, of which a minus sign takes one place.  A longer numeral is never cut.
-/

namespace PersianCalendar.Decimal

/-- The characters of a number, padded with zeros to `width` places. -/
def chars (width : Nat) (n : Int) : List Char :=
  if n < 0 then '-' :: (Nat.toDigits 10 n.natAbs).leftpad (width - 1) '0'
  else (Nat.toDigits 10 n.natAbs).leftpad width '0'

/-- The text of a number, padded with zeros to `width` places. -/
def text (width : Nat) (n : Int) : String :=
  String.ofList (chars width n)

/-- The number that a run of digits stands for; the empty run stands for 0. -/
def value (digits : List Char) : Nat :=
  Nat.ofDigitChars 10 digits 0

/-- Every number is read back from its digits. -/
@[simp] theorem value_toDigits (n : Nat) : value (Nat.toDigits 10 n) = n :=
  Nat.ofDigitChars_toDigits (by decide) (by decide)

end PersianCalendar.Decimal
