import SalonBooking.Calendar.IsoDate
import SalonBooking.Calendar.TimeOfDay
import SalonBooking.Calendar.TimeZone

/-!
# Moments and local time

A local time is a date and a time of day to the microsecond.  A moment is a
local time that may come with its offset from universal time, in microseconds to
the east.  `Moment.localTime` reads the store's clock at a moment: with an offset
the time is taken back to universal time and then forward to the store's, and
either step may leave the years 1 to 9999; without one it already is the store's
time.
-/

namespace SalonBooking

/-- The microseconds of a second. -/
def microsPerSecond : Nat := 1000000

/-- The microseconds of a minute. -/
def microsPerMinute : Nat := 60 * microsPerSecond

/-- The microseconds of a day. -/
def microsPerDay : Nat := 1440 * microsPerMinute

theorem microsPerDay_pos : 0 < microsPerDay := by decide

/-- A date and the microseconds since its midnight. -/
structure LocalTime where
  date : Date
  micros : Nat
  micros_lt : micros < microsPerDay
  deriving DecidableEq

namespace LocalTime

/-- What is left of a number of microseconds after whole days is less than a day. -/
theorem toNat_emod_lt (micros : Int) : (micros % (microsPerDay : Int)).toNat < microsPerDay := by
  have hpos : (0 : Int) < (microsPerDay : Int) := Int.natCast_pos.mpr microsPerDay_pos
  have hlow := Int.emod_nonneg micros (Int.ne_of_gt hpos)
  have hhigh := Int.emod_lt_of_pos micros hpos
  omega

/-- The time that lies a number of microseconds after the start of the day of ordinal zero. -/
def ofTotal? (micros : Int) : Option LocalTime :=
  (Date.ofOrdinal? (micros / (microsPerDay : Int))).map fun date =>
    ⟨date, (micros % (microsPerDay : Int)).toNat, toNat_emod_lt micros⟩

/-- The microseconds since the start of the day of ordinal zero, which is before year 1. -/
def total (t : LocalTime) : Nat :=
  t.date.ordinal * microsPerDay + t.micros

/-- The time that lies a number of microseconds after another. -/
def addMicros (t : LocalTime) (micros : Int) : Except CalendarError LocalTime :=
  match ofTotal? (t.total + micros) with
  | some later => .ok later
  | none => .error .outOfRange

/-- The time that lies a number of seconds after another. -/
def addSeconds (t : LocalTime) (seconds : Int) : Except CalendarError LocalTime :=
  t.addMicros (seconds * microsPerSecond)

/-- The first day of 1970, as an ordinal. -/
def epochOrdinal : Nat := 719163

/-- The whole seconds since the start of 1970 on the same clock. -/
def epochSeconds (t : LocalTime) : Int :=
  ((t.total / microsPerSecond : Nat) : Int) - ((epochOrdinal * 86400 : Nat) : Int)

/-- The text `YYYY-MM-DDTHH:MM:SS`, with six more digits if there are microseconds. -/
def iso (t : LocalTime) : String :=
  let seconds := t.micros / 1000000
  let fraction := t.micros % 1000000
  t.date.iso ++ "T" ++ Date.padded 2 (seconds / 3600) ++ ":" ++
    Date.padded 2 (seconds / 60 % 60) ++ ":" ++ Date.padded 2 (seconds % 60) ++
    (if fraction = 0 then "" else "." ++ Date.padded 6 fraction)

end LocalTime

/-- A local time, with its offset from universal time in microseconds if it is known. -/
structure Moment where
  clock : LocalTime
  offset : Option Int
  deriving DecidableEq

namespace Moment

/-- The time on the clocks of a zone. -/
def localTime (m : Moment) (zone : TimeZone) : Except CalendarError LocalTime :=
  match m.offset with
  | none => .ok m.clock
  | some offset => do
    let universal ← m.clock.addMicros (-offset)
    universal.addSeconds (zone.offsetAt universal.epochSeconds)

/-- A local time as a moment without an offset. -/
def ofLocal (t : LocalTime) : Moment := ⟨t, none⟩

/-! ## Reading -/

/-- The microseconds that the digits of a fraction of a second write; digits past the sixth are
dropped. -/
def fractionMicros (digits : List Char) : Nat :=
  Text.digitsValue ((digits ++ List.replicate 6 '0').take 6)

/-- Whether a character is the sign of an offset to the west: the hyphen or the minus sign. -/
def isMinus (c : Char) : Bool :=
  c == '-' || c.toNat == 0x2212

/-- An offset: `Z`, or a sign, two digits of hours and two of minutes, with or without a colon. -/
def readOffset? : List Char → Option (Option Int)
  | [] => some none
  | ['Z'] => some (some 0)
  | ['z'] => some (some 0)
  | sign :: rest => do
    let (hours, afterHours) ← Date.readDigits 2 rest
    let afterColon := match afterHours with
      | ':' :: text => text
      | text => text
    let (minutes, final) ← Date.readDigits 2 afterColon
    if final.isEmpty ∧ hours < 24 ∧ minutes < 60 then
      let n : Int := (hours * 60 + minutes) * microsPerMinute
      if sign = '+' then some (some n) else if isMinus sign then some (some (-n)) else none
    else none

/-- The seconds with their fraction, in microseconds, and what follows; both may be left out. -/
def readSeconds? : List Char → Option (Nat × List Char)
  | ':' :: rest => do
    let (seconds, afterSeconds) ← Date.readDigits 2 rest
    if 60 ≤ seconds then none
    match afterSeconds with
    | mark :: text =>
      if mark = '.' ∨ mark = ',' then
        let digits := text.takeWhile Char.isDigit
        if digits.isEmpty then none
        else some (seconds * 1000000 + fractionMicros digits, text.dropWhile Char.isDigit)
      else some (seconds * 1000000, mark :: text)
    | [] => some (seconds * 1000000, [])
  | text => some (0, text)

/-- Whether a character may stand between the date and the time. -/
def isTimeMark (c : Char) : Bool :=
  c == 'T' || c == 't' || c == ' ' || c == '_'

/-- The time of day that some characters write, in microseconds, and what follows it. -/
def readTime? (text : List Char) : Option (Nat × List Char) := do
  let (hour, afterHour) ← Date.readDigits 2 text
  match afterHour with
  | ':' :: minuteText =>
    let (minute, afterMinute) ← Date.readDigits 2 minuteText
    let minutes ← TimeOfDay.ofHourMinute? hour minute
    let (micros, rest) ← readSeconds? afterMinute
    return (minutes * microsPerMinute + micros, rest)
  | _ => none

/-- The moment that a text writes: a date with hyphens, a mark, a time and perhaps an offset; a
date alone is its midnight. -/
def parse? (s : String) : Option Moment := do
  let (date, afterDate) ← Date.readHyphenated s.toList
  match afterDate with
  | [] => some ⟨⟨date, 0, by decide⟩, none⟩
  | mark :: text =>
    if !isTimeMark mark then none
    let (micros, afterTime) ← readTime? text
    let offset ← readOffset? afterTime
    if h : micros < microsPerDay then some ⟨⟨date, micros, h⟩, offset⟩ else none

end Moment

end SalonBooking
