import SalonBooking.Calendar.TimeOfDay
import SalonBooking.Form.Schedule

/-!
# Evenly spaced times

The times that a form offers start at one time of day and go on in equal steps
up to, but not including, another.  `timeSlots` takes its arguments as they
come, of whatever kind; what cannot be read offers no times.
-/

namespace SalonBooking

/-- The numbers `start`, `start + step`, … below `stop`, for a positive step. -/
def steps (start stop step : Nat) : List Nat :=
  (List.range ((stop - start + step - 1) / step)).map fun i => start + i * step

/-- The times of day from one number of minutes on and before another. -/
def timesBetween (start stop step : Nat) : List String :=
  (steps start stop step).map fun (minutes : Nat) => TimeOfDay.format minutes

/-- The times of day between two written ones; none if either cannot be read. -/
def timesFrom (start stop : String) (step : Nat) : List String :=
  match TimeOfDay.parse? start, TimeOfDay.parse? stop with
  | some first, some last => timesBetween first last step
  | _, _ => []

/-- The minutes that a value writes; only a string can. -/
def minutesOf? (v : Json) : Option Nat :=
  v.text?.bind TimeOfDay.parse?

/-- The times of day between two values of any kind, in steps of a third: none unless both write
times and the step is a positive integer. -/
def timeSlots (start stop step : Json) : List String :=
  match minutesOf? start, minutesOf? stop, step with
  | some first, some last, .int n => if 0 < n then timesBetween first last n.toNat else []
  | _, _, _ => []

end SalonBooking
