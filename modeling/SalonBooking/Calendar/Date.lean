import SalonBooking.Calendar.Weekday
import SalonBooking.Text.Quoted

/-!
# Dates

Days of the proleptic Gregorian calendar in the years 1 to 9999.  A date is its
ordinal, the number of days from the start of year 1 counted from one, so that
arithmetic and order are those of numbers; year, month and day are computed
from it.  Day 1 is a Monday.

Moving a date out of the years 1 to 9999 is the one way in which calendar
arithmetic fails.
-/

namespace SalonBooking

/-- Why a calendar computation has no answer. -/
inductive CalendarError where
  /-- The result lies before year 1 or after year 9999. -/
  | outOfRange
  deriving DecidableEq, Repr

/-- The ordinal of the last day of year 9999. -/
def lastOrdinal : Nat := 3652059

/-- A day of the years 1 to 9999. -/
structure Date where
  ordinal : Nat
  inRange : 1 ≤ ordinal ∧ ordinal ≤ lastOrdinal
  deriving DecidableEq

namespace Date

/-- The day of an ordinal. -/
def ofOrdinal? (n : Int) : Option Date :=
  if h : 1 ≤ n.toNat ∧ n.toNat ≤ lastOrdinal then some ⟨n.toNat, h⟩ else none

/-- The day that lies a number of days after another. -/
def addDays (d : Date) (days : Int) : Except CalendarError Date :=
  match ofOrdinal? (d.ordinal + days) with
  | some later => .ok later
  | none => .error .outOfRange

/-- The day of the week. -/
def weekday (d : Date) : Weekday :=
  Weekday.ofIndex d.ordinal

/-- The days since the last Monday. -/
def daysSinceMonday (d : Date) : Nat :=
  (d.ordinal + 6) % 7

/-- The Monday of the week of a day.  The first day of all is a Monday, so there always is one. -/
def weekStart (d : Date) : Date where
  ordinal := d.ordinal - d.daysSinceMonday
  inRange := by
    have h := d.inRange
    unfold daysSinceMonday
    omega

/-- The seven days from a day on. -/
def sevenDays (start : Date) : Except CalendarError (List Date) :=
  (List.range 7).mapM fun (i : Nat) => start.addDays i

/-! ## Year, month and day -/

/-- Whether a year has 366 days. -/
def isLeapYear (year : Nat) : Bool :=
  year % 4 == 0 && (year % 100 != 0 || year % 400 == 0)

/-- The lengths of the months of a year. -/
def monthLengths (year : Nat) : List Nat :=
  [31, if isLeapYear year then 29 else 28, 31, 30, 31, 30, 31, 31, 30, 31, 30, 31]

/-- The days of all years before one. -/
def daysBeforeYear (year : Nat) : Nat :=
  let y := year - 1
  y * 365 + y / 4 - y / 100 + y / 400

/-- The days of the months of a year before one of them. -/
def daysBeforeMonth (year month : Nat) : Nat :=
  ((monthLengths year).take (month - 1)).foldr (· + ·) 0

/-- The day of a year, month and day of the month. -/
def ofCivil? (year month day : Nat) : Option Date :=
  if 1 ≤ year ∧ year ≤ 9999 ∧ 1 ≤ month ∧ month ≤ 12 ∧ 1 ≤ day ∧
      day ≤ (monthLengths year).getD (month - 1) 0 then
    ofOrdinal? ((daysBeforeYear year + daysBeforeMonth year month + day : Nat) : Int)
  else none

/-- The month and the day of the month of the day that lies some days after the start of the month
with which a list of month lengths begins. -/
def splitMonths : (month : Nat) → (lengths : List Nat) → (days : Nat) → Nat × Nat
  | month, length :: rest, days =>
    if days < length then (month, days + 1) else splitMonths (month + 1) rest (days - length)
  | month, [], days => (month, days + 1)

/-- The year, the month and the day of the month.  The last year of a century and the last year of
four may have a day more than the others, hence the two minima. -/
def civil (d : Date) : Nat × Nat × Nat :=
  let days := d.ordinal - 1
  let inCycle := days % 146097
  let centuries := min (inCycle / 36524) 3
  let inCentury := inCycle - centuries * 36524
  let inFour := inCentury % 1461
  let years := min (inFour / 365) 3
  let year := days / 146097 * 400 + centuries * 100 + inCentury / 1461 * 4 + years + 1
  let (month, day) := splitMonths 1 (monthLengths year) (inFour - years * 365)
  (year, month, day)

/-- A number with zeros in front up to a width. -/
def padded (width n : Nat) : String :=
  String.ofList (Text.padLeft width (toString n).toList)

/-- The text `YYYY-MM-DD`. -/
def iso (d : Date) : String :=
  let (year, month, day) := d.civil
  padded 4 year ++ "-" ++ padded 2 month ++ "-" ++ padded 2 day

@[simp] theorem weekStart_ordinal (d : Date) :
    d.weekStart.ordinal = d.ordinal - (d.ordinal + 6) % 7 := rfl

@[simp] theorem weekday_index (d : Date) : d.weekday.index = d.ordinal % 7 :=
  Weekday.index_ofIndex _

end Date

end SalonBooking
