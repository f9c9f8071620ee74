import PersianCalendar.Calendar
import PersianCalendar.Date.AnyDate
import PersianCalendar.Date.Basic
import PersianCalendar.Date.Conversion
import PersianCalendar.Date.DayNumber
import PersianCalendar.Date.Order
import PersianCalendar.Date.Written
import PersianCalendar.DateError
import PersianCalendar.FixedWidth.Date
import PersianCalendar.FixedWidth.Gregorian
import PersianCalendar.FixedWidth.Jalali
import PersianCalendar.FixedWidth.Reading
import PersianCalendar.FixedWidth.Step
import PersianCalendar.FixedWidth.Walk
import PersianCalendar.Gregorian.DayNumber
import PersianCalendar.Gregorian.Year
import PersianCalendar.Jalali.DayOfYear
import PersianCalendar.Jalali.Run
import PersianCalendar.Jalali.YearStart
import PersianCalendar.Json.Backend
import PersianCalendar.Json.Basic
import PersianCalendar.Json.Date
import PersianCalendar.Json.Form
import PersianCalendar.Json.Reader
import PersianCalendar.Json.Standard
import PersianCalendar.Json.Writer
import PersianCalendar.Persian.Display
import PersianCalendar.Persian.Month
import PersianCalendar.Persian.Written
import PersianCalendar.Proofs.Date.AddDays
import PersianCalendar.Proofs.Date.CarryOver
import PersianCalendar.Proofs.Date.Conversion
import PersianCalendar.Proofs.Date.DayNumber
import PersianCalendar.Proofs.Date.NextDay
import PersianCalendar.Proofs.Date.Order
import PersianCalendar.Proofs.Date.Range
import PersianCalendar.Proofs.Date.Refusal
import PersianCalendar.Proofs.Date.RoundTrip
import PersianCalendar.Proofs.Date.Sorting
import PersianCalendar.Proofs.Date.Succession
import PersianCalendar.Proofs.Date.Walk
import PersianCalendar.Proofs.FixedWidth.Date
import PersianCalendar.Proofs.FixedWidth.DaySplit
import PersianCalendar.Proofs.FixedWidth.DaySum
import PersianCalendar.Proofs.FixedWidth.Gregorian
import PersianCalendar.Proofs.FixedWidth.Jalali
import PersianCalendar.Proofs.FixedWidth.NoFault
import PersianCalendar.Proofs.FixedWidth.Reading
import PersianCalendar.Proofs.FixedWidth.Step
import PersianCalendar.Proofs.FixedWidth.Walk
import PersianCalendar.Proofs.FixedWidth.YearStart
import PersianCalendar.Proofs.Gregorian.Months
import PersianCalendar.Proofs.Gregorian.Split
import PersianCalendar.Proofs.Jalali.Fields
import PersianCalendar.Proofs.Jalali.LeapYears
import PersianCalendar.Proofs.Jalali.Months
import PersianCalendar.Proofs.Jalali.Nowruz
import PersianCalendar.Proofs.Jalali.Runs
import PersianCalendar.Proofs.Json.Date
import PersianCalendar.Proofs.Json.Settles
import PersianCalendar.Proofs.Json.Standard
import PersianCalendar.Proofs.Json.String
import PersianCalendar.Proofs.Json.Value
import PersianCalendar.Proofs.Outcome
import PersianCalendar.Proofs.Persian.Display
import PersianCalendar.Proofs.Persian.LongForm
import PersianCalendar.Proofs.Persian.Redisplay
import PersianCalendar.Proofs.Persian.Timestamp
import PersianCalendar.Proofs.Reading.Fields
import PersianCalendar.Proofs.Reading.Grammar
import PersianCalendar.Proofs.Reading.Loose
import PersianCalendar.Proofs.Reading.LooseNumbers
import PersianCalendar.Proofs.Reading.RoundTrip
import PersianCalendar.Proofs.Reading.Spelling
import PersianCalendar.Proofs.Reading.Tagged
import PersianCalendar.Proofs.Reading.Written
import PersianCalendar.Proofs.Text.Clean
import PersianCalendar.Proofs.Text.Decimal
import PersianCalendar.Proofs.Text.NormalForm
import PersianCalendar.Proofs.Text.Order
import PersianCalendar.Proofs.Text.Spelling
import PersianCalendar.Proofs.Text.Trim
import PersianCalendar.Reading.Error
import PersianCalendar.Reading.Fields
import PersianCalendar.Reading.Loose
import PersianCalendar.Reading.Tagged
import PersianCalendar.Reading.YearFirst
import PersianCalendar.Text.Blank
import PersianCalendar.Text.Clean
import PersianCalendar.Text.Decimal
import PersianCalendar.Text.Digit
import PersianCalendar.Walk
import PersianCalendar.Width
