/-!
# Days of the week

The seven days, numbered from Sunday as 0 to Saturday as 6.
-/

namespace SalonBooking

/-- A day of the week. -/
inductive Weekday where
  | sunday
  | monday
  | tuesday
  | wednesday
  | thursday
  | friday
  | saturday
  deriving DecidableEq, Repr

namespace Weekday

/-- The days in the order of their numbers. -/
def all : List Weekday :=
  [.sunday, .monday, .tuesday, .wednesday, .thursday, .friday, .saturday]

/-- The days in the order of a week that starts on Monday. -/
def fromMonday : List Weekday :=
  [.monday, .tuesday, .wednesday, .thursday, .friday, .saturday, .sunday]

/-- The number of a day, Sunday being 0. -/
def index : Weekday → Nat
  | .sunday => 0
  | .monday => 1
  | .tuesday => 2
  | .wednesday => 3
  | .thursday => 4
  | .friday => 5
  | .saturday => 6

/-- The day of a number, counted round the week. -/
def ofIndex (n : Nat) : Weekday :=
  match n % 7 with
  | 0 => .sunday
  | 1 => .monday
  | 2 => .tuesday
  | 3 => .wednesday
  | 4 => .thursday
  | 5 => .friday
  | _ => .saturday

/-- The day of a number of either sign, counted round the week. -/
def ofInt (n : Int) : Weekday :=
  ofIndex (n % 7).toNat

/-- The name under which a day's settings are stored. -/
def name : Weekday → String
  | .sunday => "sunday"
  | .monday => "monday"
  | .tuesday => "tuesday"
  | .wednesday => "wednesday"
  | .thursday => "thursday"
  | .friday => "friday"
  | .saturday => "saturday"

@[simp] theorem mem_all (day : Weekday) : day ∈ all := by
  cases day <;> decide

@[simp] theorem index_ofIndex (n : Nat) : (ofIndex n).index = n % 7 := by
  have h : n % 7 < 7 := Nat.mod_lt n (by decide)
  unfold ofIndex
  generalize n % 7 = r at h
  match r, h with
  | 0, _ | 1, _ | 2, _ | 3, _ | 4, _ | 5, _ | 6, _ => rfl

@[simp] theorem ofIndex_index (day : Weekday) : ofIndex day.index = day := by
  cases day <;> rfl

end Weekday

end SalonBooking
