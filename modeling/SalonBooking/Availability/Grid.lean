import SalonBooking.Availability.Slot

/-!
# The weekly grid and the pickers

In calendar mode the page shows a week from Monday to Sunday: a row for every
half hour between the earliest opening and the latest closing of the week, a
cell for every day.  Without a usable open day the rows go from nine to six,
and no cell is offered.

In multiple-dates mode the page offers the days of a range without the excluded
days of the week, and the same times on each.
-/

namespace SalonBooking

/-- One cell of the grid. -/
structure Cell where
  date : Date
  time : String
  offered : Bool
  deriving DecidableEq

/-- The minutes between two rows of the grid. -/
def rowStep : Nat := 30

/-- The first and the end of the rows of a week without a usable open day. -/
def fallbackRows : Nat × Nat := (9 * 60, 18 * 60)

namespace Schedule

/-- The opening and closing minutes of the days that open before they close. -/
def usableWindows (schedule : Schedule) : List (Nat × Nat) :=
  (Weekday.all.filterMap fun day => (schedule.hours.get day).window?).filter fun w => w.1 < w.2

/-- The minutes between which the rows of the grid lie. -/
def rowBounds (schedule : Schedule) : Nat × Nat :=
  match schedule.usableWindows with
  | [] => fallbackRows
  | w :: rest => rest.foldl (fun bounds v => (min bounds.1 v.1, max bounds.2 v.2)) w

/-- The times of the rows of the grid. -/
def rowTimes (schedule : Schedule) : List String :=
  timesBetween schedule.rowBounds.1 schedule.rowBounds.2 rowStep

/-- The grid of the week of a day, row by row. -/
def weekGridLive {σ : Type} (schedule : Schedule) (zone : TimeZone) (start : Date) (now : Moment)
    (calendar : Option (LiveCalendar σ)) : Live σ (List (List Cell)) := do
  let days ← start.weekStart.sevenDays
  let current ← now.localTime zone
  schedule.rowTimes.mapM fun time =>
    days.mapM fun day => do
      let offered ← schedule.isOfferedLive zone day time (.ofLocal current) calendar
      return ⟨day, time, offered⟩

/-- The grid of the week of a day with a live check, if any. -/
def weekGrid (schedule : Schedule) (zone : TimeZone) (start : Date) (now : Moment)
    (check : Option LiveCheck) : Inquiry (List (List Cell)) :=
  schedule.weekGridLive zone start now (check.map LiveCheck.ask)

/-- The days that multiple-dates mode offers, counted from today. -/
def eligibleDates (schedule : Schedule) (today : Date) : Except CalendarError (List Date) := do
  let settings := schedule.multipleDates
  let days ← (List.range settings.rangeDays).mapM fun (i : Nat) => today.addDays i
  return days.filter fun day => !settings.excluded.contains day.weekday

/-- The times that multiple-dates mode offers. -/
def pickerTimes (schedule : Schedule) : List String :=
  let settings := schedule.multipleDates
  timesFrom settings.startTime settings.endTime settings.step.minutes

end Schedule

end SalonBooking
