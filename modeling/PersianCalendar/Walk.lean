import PersianCalendar.Reading.Loose
import PersianCalendar.Reading.Tagged

/-!
# Walks from date to date

A walk starts at a date and takes one move after the other.  A move that fails leaves the date as it
is.
-/

namespace PersianCalendar

/-- The moves of a walk.  Fields, day numbers and texts are taken in the calendar of the date at
which the walk stands, unless the text names or shows its calendar. -/
inductive Move where
  /-- Goes on by a number of days. -/
  | addDays (days : Int)
  /-- Goes over to the Jalali calendar. -/
  | toJalali
  /-- Goes over to the Gregorian calendar. -/
  | toGregorian
  /-- Goes to the date with the given fields. -/
  | toYmd (f : Ymd)
  /-- Goes to the date with the given day number. -/
  | toDay (n : Int)
  /-- Goes to the date that a text stands for. -/
  | toText (s : String)
  /-- Goes to the date that a text with a tag stands for. -/
  | toTagged (s : String)
  /-- Goes to the date that a text of an unknown calendar stands for. -/
  | toLoose (threshold : Int) (s : String)
deriving DecidableEq, Repr

/-- Why a move fails. -/
inductive MoveError where
  /-- There is no such date. -/
  | date (error : DateError)
  /-- The text is not read as a date. -/
  | text (error : ReadError)
deriving DecidableEq, Repr

namespace Move

/-- The date to which a move leads. -/
def apply (d : AnyDate) : Move → Except MoveError AnyDate
  | addDays days => (d.addDays days).mapError .date
  | toJalali => (d.toJalali.map (AnyDate.mk .jalali)).mapError .date
  | toGregorian => .ok ⟨.gregorian, d.toGregorian⟩
  | toYmd f => (AnyDate.ofYmd d.calendar f).mapError .date
  | toDay n => (AnyDate.ofDayNumber d.calendar n).mapError .date
  | toText s => ((Date.read d.calendar s).map (AnyDate.mk d.calendar)).mapError .text
  | toTagged s => (AnyDate.readTagged s).mapError .text
  | toLoose threshold s => (AnyDate.readLooseWith threshold s).mapError .text

/-- The date at which a walk stands after a move. -/
def next (d : AnyDate) (m : Move) : AnyDate :=
  match m.apply d with
  | .ok e => e
  | .error _ => d

end Move

/-- The date at which a walk ends. -/
def walk (d : AnyDate) (moves : List Move) : AnyDate := moves.foldl Move.next d

end PersianCalendar
