import PersianCalendar.Text.Blank
import PersianCalendar.Text.Digit

/-!
# Cleaning of typed text

Text that people type or paste holds digits of three scripts, marks that steer the direction of
writing, and blanks and quotes around it.  Cleaning turns all digits into ASCII digits, leaves the
marks out, and then trims blanks, quotes and blanks again.
-/

namespace PersianCalendar.Text

/-- The marks without a width: the directional marks, the zero-width non-joiner, and the controls of
directional embedding. -/
def isMark (c : Char) : Bool :=
  c == '\u200e' || c == '\u200f' || c == '\u200c' || ('\u202a' ≤ c && c ≤ '\u202e')

/-- The quotes that a date may stand between. -/
def isQuote (c : Char) : Bool := c == '"' || c == '\''

/-- A text without marks. -/
def dropMarks (cs : List Char) : List Char := cs.filter fun c => !isMark c

/-- A text with ASCII digits and without marks. -/
def plain (cs : List Char) : List Char := dropMarks (cs.map Digit.western)

/-- A text cleaned for reading. -/
def clean (cs : List Char) : List Char := trim (trimWhere isQuote (trim (plain cs)))

/-- A text without marks. -/
def withoutMarks (s : String) : String := String.ofList (dropMarks s.toList)

/-- A text cleaned for reading. -/
def cleaned (s : String) : String := String.ofList (clean s.toList)

@[simp] theorem toList_cleaned (s : String) : (cleaned s).toList = clean s.toList :=
  String.toList_ofList

end PersianCalendar.Text
