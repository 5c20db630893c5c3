import SalonBooking.Data.Limits
import SalonBooking.Text.Blank
import SalonBooking.Text.DecimalDigit
import SalonBooking.Text.Quoted

/-!
# Times of day

A time of day is a number of minutes since midnight.  It is read from `HH:MM`:
one or two digits of any script, a colon and two digits, blanks around them
allowed, hours up to 23 and minutes up to 59.  It is written with two digits
on both sides.  Writing is defined for every integer: hours are then rounded
down, so the minutes are never negative.  Of a number far outside the day the
machine may not convert the hours.
-/

namespace SalonBooking.TimeOfDay

/-- The minutes of an hour and a minute in range. -/
def ofHourMinute? (hour minute : Nat) : Option Nat :=
  if 23 < hour ∨ 59 < minute then none else some (hour * 60 + minute)

/-- The minutes that the characters of a trimmed text write. -/
def ofChars? : List Char → Option Nat
  | [a, ':', c, d] => do
    ofHourMinute? (← Text.digitValue? a) ((← Text.digitValue? c) * 10 + (← Text.digitValue? d))
  | [a, b, ':', c, d] => do
    ofHourMinute? ((← Text.digitValue? a) * 10 + (← Text.digitValue? b))
      ((← Text.digitValue? c) * 10 + (← Text.digitValue? d))
  | _ => none

/-- The minutes since midnight that a text writes. -/
def parse? (s : String) : Option Nat :=
  ofChars? (Text.trimBy Text.isBlank s.toList)

/-- An integer with zeros in front up to two characters, the minus sign counted. -/
def twoDigits (n : Int) : List Char :=
  let digits := (toString n.natAbs).toList
  if n < 0 then '-' :: Text.padLeft 1 digits else Text.padLeft 2 digits

/-- The text `HH:MM` of a number of minutes. -/
def format (minutes : Int) : String :=
  String.ofList (twoDigits (minutes / 60) ++ ':' :: twoDigits (minutes % 60))

/-- The same on a machine that may not convert the hours. -/
def format? (limits : Limits) (minutes : Int) : Option String :=
  if (limits.text? (minutes / 60)).isSome then some (format minutes) else none

end SalonBooking.TimeOfDay
