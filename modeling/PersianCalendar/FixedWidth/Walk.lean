import PersianCalendar.FixedWidth.Reading
import PersianCalendar.Walk

/-!
# Walks with words of fixed width

A move leads to the same dates as with exact integers.  The dates that come from a day number are
built of words that were narrowed and not checked again, so that a walk is only as right as the
arithmetic before it.
-/

namespace PersianCalendar.FixedWidth

open PersianCalendar (Date Move)

namespace AnyDate

/-- The Jalali date of the same day. -/
def toJalali : AnyDate → Checked DateError (Date .jalali)
  | ⟨.jalali, d⟩ => pure d
  | ⟨.gregorian, d⟩ => Date.convert d .jalali

/-- The Gregorian date of the same day. -/
def toGregorian : AnyDate → Except Fault (Date .gregorian)
  | ⟨.jalali, d⟩ => Date.toGregorian d
  | ⟨.gregorian, d⟩ => pure d

end AnyDate

namespace Move

/-- The date to which a move leads. -/
def apply (d : AnyDate) : Move → Checked MoveError AnyDate
  | .addDays days => (AnyDate.mk d.calendar <$> Date.addDays d.date days).adapt .date
  | .toJalali => (AnyDate.mk .jalali <$> AnyDate.toJalali d).adapt .date
  | .toGregorian => do return ⟨.gregorian, ← AnyDate.toGregorian d⟩
  | .toYmd f => (Reading.anyDate d.calendar f).adapt .date
  | .toDay n => (AnyDate.mk d.calendar <$> Date.ofDayNumber d.calendar n).adapt .date
  | .toText s => (AnyDate.mk d.calendar <$> Reading.date d.calendar s).adapt .text
  | .toTagged s => (Reading.tagged s).adapt .text
  | .toLoose threshold s => (Reading.looseWith threshold s).adapt .text

/-- The date at which a walk stands after a move. -/
def next (d : AnyDate) (m : Move) : Except Fault AnyDate := do
  match ← (apply d m).run with
  | .ok e => return e
  | .error _ => return d

end Move

/-- The date at which a walk ends. -/
def walk (d : AnyDate) (moves : List Move) : Except Fault AnyDate :=
  moves.foldlM Move.next d

end PersianCalendar.FixedWidth
