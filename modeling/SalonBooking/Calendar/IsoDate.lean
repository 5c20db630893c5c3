import SalonBooking.Calendar.Date
import SalonBooking.Text.CodePoint
import SalonBooking.Text.DecimalDigit

/-!
# Reading dates

The forms of ISO 8601 that a date may have: year, month and day
(`2025-01-10`, `20250110`) or year, week and day of the week (`2025-W02-5`,
`2025W025`), the day of the week left out for Monday (`2025-W02`, `2025W02`).
A text is 7, 8 or 10 bytes long and its digits are ASCII; a text with a
surrogate has no bytes and is no date.  After a day without hyphens two more
bytes may follow; they are not looked at.
-/

namespace SalonBooking.Date

/-- The number that the first `count` characters write, all of them digits. -/
def readDigits (count : Nat) (text : List Char) : Option (Nat × List Char) :=
  let digits := text.take count
  if digits.length = count ∧ digits.all Char.isDigit then
    some (Text.digitsValue digits, text.drop count)
  else none

/-- What follows the hyphen between two parts, in a form that has hyphens. -/
def readHyphen (hyphens : Bool) (text : List Char) : Option (List Char) :=
  if hyphens then
    match text with
    | '-' :: rest => some rest
    | _ => none
  else some text

/-- Whether a year has 53 weeks: its first day is a Thursday, or a Wednesday in a leap year. -/
def hasLongWeekCount (year : Nat) : Bool :=
  let first := Weekday.ofIndex (daysBeforeYear year + 1)
  first == .thursday || (first == .wednesday && isLeapYear year)

/-- The Monday of week 1, the week that holds the first Thursday of the year, as an ordinal. -/
def firstMonday (year : Nat) : Nat :=
  let first := daysBeforeYear year + 1
  let sinceMonday := (first + 6) % 7
  if 3 < sinceMonday then first - sinceMonday + 7 else first - sinceMonday

/-- The day of a year, a week and a day of the week counted from Monday as 1. -/
def ofWeek? (year week day : Nat) : Option Date :=
  if 1 ≤ year ∧ 1 ≤ week ∧ (week ≤ 52 ∨ week = 53 ∧ hasLongWeekCount year) ∧ 1 ≤ day ∧ day ≤ 7 then
    ofOrdinal? ((firstMonday year + (week - 1) * 7 + (day - 1) : Nat) : Int)
  else none

/-- The day that a text writes. -/
def parse? (s : String) : Option Date := do
  if !Text.isWritable s then none
  let size := (Text.utf8 s).size
  if size ≠ 7 ∧ size ≠ 8 ∧ size ≠ 10 then none
  let (year, afterYear) ← readDigits 4 s.toList
  let (hyphens, text) := match afterYear with
    | '-' :: rest => (true, rest)
    | rest => (false, rest)
  match text with
  | 'W' :: weekText =>
    let (week, afterWeek) ← readDigits 2 weekText
    if afterWeek.isEmpty then ofWeek? year week 1
    else
      let (day, _) ← readDigits 1 (← readHyphen hyphens afterWeek)
      ofWeek? year week day
  | _ =>
    let (month, afterMonth) ← readDigits 2 text
    let (day, _) ← readDigits 2 (← readHyphen hyphens afterMonth)
    ofCivil? year month day

/-- The day that a year, a month and a day with hyphens between them write in front of a text, and
what follows it. -/
def readHyphenated (text : List Char) : Option (Date × List Char) := do
  let (year, afterYear) ← readDigits 4 text
  let (month, afterMonth) ← readDigits 2 (← readHyphen true afterYear)
  let (day, rest) ← readDigits 2 (← readHyphen true afterMonth)
  return (← ofCivil? year month day, rest)

end SalonBooking.Date
