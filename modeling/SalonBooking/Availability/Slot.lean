import SalonBooking.Availability.Times
import SalonBooking.Calendar.Moment

/-!
# Which slots are offered

A slot is a day and a written time of day.  The window rules offer it if the
day is not past the last bookable day, the salon is open at that time on that
day of the week, and the slot has not begun.  A live calendar, if there is one, is
then asked about it, and about no other slot.

A live calendar may have a state of its own, so that what it says may depend on
what it was asked before.  A live check always says the same of a slot; what it
was asked is kept as a list beside the answer, so that it can be said in which
order and how often it was consulted.
-/

namespace SalonBooking

/-- A computation that may consult a live calendar, whose state it carries along. -/
abbrev Live (σ : Type) := StateT σ (Except CalendarError)

/-- A live calendar: it is asked about a slot and says whether it is free. -/
abbrev LiveCalendar (σ : Type) := Date → String → Live σ Bool

/-- A live calendar whose answer about a slot never changes. -/
abbrev LiveCheck := Date → String → Bool

/-- A computation that may consult a live check and records the slots that it asked about. -/
abbrev Inquiry := Live (List (Date × String))

/-- The live calendar that a check is, its state being the slots that it was asked about. -/
def LiveCheck.ask (check : LiveCheck) : LiveCalendar (List (Date × String)) := fun day time => do
  modify (· ++ [(day, time)])
  return check day time

namespace DayHours

/-- The opening and the closing minute, of a day that is not closed and whose times can be read. -/
def window? (hours : DayHours) : Option (Nat × Nat) :=
  if hours.closed then none
  else
    match TimeOfDay.parse? hours.opens, TimeOfDay.parse? hours.closes with
    | some opens, some closes => some (opens, closes)
    | _, _ => none

/-- The minute of a written time within the hours: from opening on and before closing. -/
def openMinute? (hours : DayHours) (time : String) : Option Nat :=
  match hours.window?, TimeOfDay.parse? time with
  | some (opens, closes), some minutes =>
    if opens ≤ minutes ∧ minutes < closes then some minutes else none
  | _, _ => none

end DayHours

/-- Whether a minute of a day is still to come. -/
def isAfter (day : Date) (minutes : Nat) (now : LocalTime) : Bool :=
  now.total < day.ordinal * microsPerDay + minutes * microsPerMinute

namespace Schedule

/-- Whether the salon is open at a slot that has not begun. -/
def isOpenAt (schedule : Schedule) (day : Date) (time : String) (now : LocalTime) : Bool :=
  match (schedule.hours.get day.weekday).openMinute? time with
  | some minutes => isAfter day minutes now
  | none => false

/-- Whether the window rules offer a slot. -/
def windowOffers (schedule : Schedule) (day : Date) (time : String) (now : LocalTime) :
    Except CalendarError Bool := do
  let last ← now.date.addDays schedule.advanceDays
  return day.ordinal ≤ last.ordinal && schedule.isOpenAt day time now

/-- Whether a slot is offered at a moment: by the window rules and by the live calendar, if any. -/
def isOfferedLive {σ : Type} (schedule : Schedule) (zone : TimeZone) (day : Date) (time : String)
    (now : Moment) (calendar : Option (LiveCalendar σ)) : Live σ Bool := do
  let current ← now.localTime zone
  if ← schedule.windowOffers day time current then
    match calendar with
    | some calendar => calendar day time
    | none => return true
  else return false

/-- Whether a slot is offered at a moment: by the window rules and by the live check, if any. -/
def isOffered (schedule : Schedule) (zone : TimeZone) (day : Date) (time : String) (now : Moment)
    (check : Option LiveCheck) : Inquiry Bool :=
  schedule.isOfferedLive zone day time now (check.map LiveCheck.ask)

end Schedule

end SalonBooking
