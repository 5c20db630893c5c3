import SalonBooking.Json.Basic
import SalonBooking.Number.Shortest

/-!
# Reading loosely typed values

Documents written by hand and by older editors hold numbers as text, switches
as words and much else.  These readings take whatever can be understood and
fall back to a default.

An integer is read by way of a binary number: it is exact up to `2 ^ 53`,
rounded to the nearest binary number beyond, and not read at all where that is
infinite.  The text of an integer is its digits, however many; taking it is
what a machine may refuse.
-/

namespace SalonBooking.Json

/-- The text of a string or a number. -/
def textOr (fallback : String) : Json → String
  | .str s => s
  | .int n => toString n
  | .float x => String.ofList x.display
  | _ => fallback

/-- The text of a string or a number, empty for anything else. -/
def asText : Json → String := textOr ""

/-- Whether a machine can take the text of a value: an integer has to be converted, and `textOr` is
its text if it is. -/
def hasText (limits : Limits) : Json → Bool
  | .int n => (limits.text? n).isSome
  | _ => true

/-- The words for a switch that is on. -/
def onWords : List String := ["true", "1", "yes", "on"]

/-- The words for a switch that is off, the empty text among them. -/
def offWords : List String := ["false", "0", "no", "off", ""]

/-- A switch: a truth value, one of the words for it, or a number that is not zero. -/
def boolOr (fallback : Bool) : Json → Bool
  | .bool b => b
  | .str s =>
    let word := Text.lower (Text.trim s)
    if onWords.contains word then true
    else if offWords.contains word then false
    else fallback
  | .int n => n != 0
  | .float x => !x.isZero
  | _ => fallback

/-- The integer part of a number or of a text that writes one. -/
def readInt? : Json → Option Int
  | .int n => (Binary64.ofInt n).truncate?
  | .float x => x.truncate?
  | .str s => (readFloat? s).bind Binary64.truncate?
  | _ => none

/-- The integer part of a number, whatever its sign. -/
def intOr (fallback : Int) (v : Json) : Int :=
  v.readInt?.getD fallback

/-- The integer part of a number, zero for negative ones. -/
def natOr (fallback : Nat) (v : Json) : Nat :=
  (v.readInt?.map Int.toNat).getD fallback

end SalonBooking.Json
