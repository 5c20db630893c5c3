import SalonBooking.Calendar.Moment
import SalonBooking.Json.Basic
import SalonBooking.Number.Decimal

/-!
# Moments in JSON

A moment in a JSON document is a text, or a number of seconds since the start
of 1970 in universal time.  A number too large to be seconds is read as
milliseconds.  A text of digits, perhaps with a point among them, is such a
number too.

Whole numbers and milliseconds are exact, rounded to the nearest microsecond.  Of
other seconds the fraction is taken in binary arithmetic before it is rounded.
-/

namespace SalonBooking

namespace Binary64

/-- The microseconds of a number of seconds.  Both the rest after the whole seconds and its product
with a million are rounded to binary numbers before the microseconds are. -/
def microsOfSeconds (x : Binary64) : Int :=
  let one := twoTo 1074
  let rest := (round false (x.signedUnits % (one : Int)).toNat one).units
  let micros := (round false (rest * 1000000) one).units
  x.signedUnits / (one : Int) * 1000000 + (((2 * micros + one) / (2 * one) : Nat) : Int)

/-- The microseconds of a number of milliseconds. -/
def microsOfMillis (x : Binary64) : Int :=
  let one := twoTo 1074
  (2000 * x.signedUnits + (one : Int)) / ((2 * one : Nat) : Int)

end Binary64

namespace Moment

/-- The largest number that is read as seconds. -/
def secondsLimit : Nat := 20000000000

/-- The moment that lies a number of microseconds after the start of 1970. -/
def ofMicros? (micros : Int) : Option Moment :=
  (LocalTime.ofTotal? (micros + ((LocalTime.epochOrdinal * microsPerDay : Nat) : Int))).map
    fun time => ⟨time, some 0⟩

/-- The moment of a whole number of seconds, or milliseconds, since the start of 1970. -/
def ofTimestamp? (n : Int) : Option Moment :=
  ofMicros? (if n.natAbs ≤ secondsLimit then n * 1000000 else n * 1000)

/-- The moment of a binary number of seconds, or milliseconds, since the start of 1970. -/
def ofFloat? (x : Binary64) : Option Moment :=
  if x.isFinite then
    ofMicros? (if x.units ≤ secondsLimit * twoTo 1074 then x.microsOfSeconds else x.microsOfMillis)
  else none

/-- The whole number that a text of digits with perhaps a sign writes. -/
def readWhole? (s : String) : Option Int :=
  let (negative, digits) := Numeral.splitSign s.toList
  if !digits.isEmpty && digits.all Char.isDigit then
    let n : Int := Text.digitsValue digits
    some (if negative then -n else n)
  else none

/-- The binary number that a text with a point after its first digits writes. -/
def readPointed? (s : String) : Option Binary64 :=
  let (negative, unsigned) := Numeral.splitSign s.toList
  match (Numeral.splitDigits unsigned).2 with
  | '.' :: _ =>
    (Numeral.readUnsigned? unsigned).map fun n => (n.toDecimal negative).toBinary64
  | _ => none

/-- The moment that a text is. -/
def ofText? (s : String) : Option Moment :=
  match parse? s, readWhole? s with
  | some m, _ => some m
  | none, some n => ofTimestamp? n
  | none, none => (readPointed? s).bind ofFloat?

/-- The moment that a JSON value is. -/
def ofJson? : Json → Option Moment
  | .str s => ofText? s
  | .int n => ofTimestamp? n
  | .float x => ofFloat? x
  | _ => none

/-- The day whose midnight a moment is. -/
def midnight? (m : Moment) : Option Date :=
  if m.clock.micros = 0 then some m.clock.date else none

/-- The day that a JSON value is, by its midnight. -/
def dateOfJson? (v : Json) : Option Date :=
  (ofJson? v).bind midnight?

example : (ofTimestamp? 0).map (·.clock.iso) = some "1970-01-01T00:00:00" := by decide +kernel

example : (ofTimestamp? 20000000001).map (·.clock.iso) = some "1970-08-20T11:33:20.001000" := by
  decide +kernel

end Moment

end SalonBooking
