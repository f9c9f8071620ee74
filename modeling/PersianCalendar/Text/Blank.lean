/-!
# Blanks and trimming

The blanks are the characters with the Unicode property White_Space, 25 of them.
-/

namespace PersianCalendar.Text

/-- The blanks: the characters with the property White_Space. -/
def isBlank (c : Char) : Bool :=
  let n := c.toNat
  (0x09 ≤ n && n ≤ 0x0D) || n == 0x20 || n == 0x85 || n == 0xA0 || n == 0x1680
    || (0x2000 ≤ n && n ≤ 0x200A) || n == 0x2028 || n == 0x2029 || n == 0x202F || n == 0x205F
    || n == 0x3000

/-- A text without the characters of a class at its two ends. -/
def trimWhere (p : Char → Bool) (cs : List Char) : List Char :=
  ((cs.dropWhile p).reverse.dropWhile p).reverse

/-- A text without the blanks at its two ends. -/
def trim (cs : List Char) : List Char := trimWhere isBlank cs

end PersianCalendar.Text
