import SalonBooking.Json.Basic
import SalonBooking.Text.CodePoint

/-!
# Values that can be written

An answer is written as JSON by the letter: a number that is infinite or no
number has no place in it, a text that holds a surrogate has no bytes, and an
integer has to be converted to digits.
-/

namespace SalonBooking

namespace Json

mutual

/-- Whether a value can be written. -/
def isWritable (limits : Limits) : Json → Bool
  | .null => true
  | .bool _ => true
  | .int n => (limits.text? n).isSome
  | .float x => x.isFinite
  | .str s => Text.isWritable s
  | .arr vs => areWritable limits vs
  | .obj ms => membersAreWritable limits ms

/-- Whether the items of an array can be written. -/
def areWritable (limits : Limits) : List Json → Bool
  | [] => true
  | v :: rest => isWritable limits v && areWritable limits rest

/-- Whether the members of an object can be written. -/
def membersAreWritable (limits : Limits) : List (String × Json) → Bool
  | [] => true
  | (key, v) :: rest =>
    Text.isWritable key && isWritable limits v && membersAreWritable limits rest

end

end Json

end SalonBooking
