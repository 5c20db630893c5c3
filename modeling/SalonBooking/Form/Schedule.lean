import SalonBooking.Calendar.Weekday
import SalonBooking.Json.Basic

/-!
# The schedule of a salon

When bookings can be asked for.  In calendar mode the page shows a weekly grid
of slots within the business hours; in multiple-dates mode it asks for up to
three wishes out of a range of days.  Times of day are kept as they were
entered: one that cannot be read offers no slots.
-/

namespace SalonBooking

/-- The business hours of one day of the week. -/
structure DayHours where
  opens : String
  closes : String
  closed : Bool
  deriving DecidableEq, Repr

/-- The business hours of all seven days. -/
structure WeekHours where
  sunday : DayHours
  monday : DayHours
  tuesday : DayHours
  wednesday : DayHours
  thursday : DayHours
  friday : DayHours
  saturday : DayHours
  deriving DecidableEq, Repr

/-- How the customer chooses a date and time. -/
inductive BookingMode where
  | calendar
  | multipleDates
  deriving DecidableEq, Repr

/-- The step between the times that multiple-dates mode offers. -/
inductive TimeStep where
  | quarterHour
  | halfHour
  | hour
  deriving DecidableEq, Repr

/-- What multiple-dates mode offers. -/
structure MultipleDates where
  step : TimeStep
  rangeDays : Nat
  /-- The days of the week that are not offered, in the order of their numbers. -/
  excluded : List Weekday
  startTime : String
  endTime : String
  deriving DecidableEq, Repr

/-- When bookings can be asked for. -/
structure Schedule where
  hours : WeekHours
  /-- How many days ahead a slot can be booked. -/
  advanceDays : Nat
  mode : BookingMode
  multipleDates : MultipleDates
  deriving DecidableEq, Repr

namespace WeekHours

/-- The hours that a function gives for each day. -/
def ofFunction (f : Weekday → DayHours) : WeekHours :=
  ⟨f .sunday, f .monday, f .tuesday, f .wednesday, f .thursday, f .friday, f .saturday⟩

/-- The hours of a day. -/
def get (hours : WeekHours) : Weekday → DayHours
  | .sunday => hours.sunday
  | .monday => hours.monday
  | .tuesday => hours.tuesday
  | .wednesday => hours.wednesday
  | .thursday => hours.thursday
  | .friday => hours.friday
  | .saturday => hours.saturday

@[simp] theorem get_ofFunction (f : Weekday → DayHours) (day : Weekday) :
    (ofFunction f).get day = f day := by
  cases day <;> rfl

@[simp] theorem ofFunction_get (hours : WeekHours) : ofFunction hours.get = hours := rfl

end WeekHours

namespace BookingMode

/-- The word for a mode. -/
def name : BookingMode → String
  | .calendar => "calendar"
  | .multipleDates => "multiple_dates"

end BookingMode

namespace TimeStep

/-- The minutes of a step. -/
def minutes : TimeStep → Nat
  | .quarterHour => 15
  | .halfHour => 30
  | .hour => 60

/-- The step of a number of minutes. -/
def ofMinutes? (n : Nat) : Option TimeStep :=
  if n = 15 then some .quarterHour
  else if n = 30 then some .halfHour
  else if n = 60 then some .hour
  else none

end TimeStep

/-! ## As stored -/

/-- The hours of a day as they are stored. -/
def DayHours.toJson (h : DayHours) : Json :=
  .obj [("open", .str h.opens), ("close", .str h.closes), ("closed", .bool h.closed)]

/-- The settings of multiple-dates mode as they are stored. -/
def MultipleDates.toJson (m : MultipleDates) : Json :=
  .obj [("time_interval", .int m.step.minutes), ("date_range_days", .int m.rangeDays),
    ("exclude_weekdays", .arr (m.excluded.map fun day => .int day.index)),
    ("start_time", .str m.startTime), ("end_time", .str m.endTime)]

/-- A schedule as it is stored, the week from Monday on as the editor shows it. -/
def Schedule.toJson (s : Schedule) : Json :=
  .obj [("business_hours",
      .obj (Weekday.fromMonday.map fun day => (day.name, (s.hours.get day).toJson))),
    ("advance_booking_days", .int s.advanceDays),
    ("booking_mode", .str s.mode.name),
    ("multiple_dates_settings", s.multipleDates.toJson)]

end SalonBooking
