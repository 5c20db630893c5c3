import SalonBooking.Data.Assoc
import SalonBooking.Data.Limits
import SalonBooking.Number.Binary64

/-!
# JSON values

A number keeps whether it was written with a fraction or an exponent: `int` is
exact and of any size, `float` is a binary number.  The members of an object
keep their order.

The integers of a value are converted to digits when its text is taken, whether
as JSON or in running text.  `Json.digits` is the most that one of them has, and a value
`fits` a machine that converts so many.

Readers of half-filled documents ask a value for what they expect and get an
empty answer otherwise: `members` and `items` of another kind of value are
empty, and a missing member reads as `null`.
-/

namespace SalonBooking

/-- A JSON value. -/
inductive Json where
  | null
  | bool (b : Bool)
  | int (n : Int)
  | float (x : Binary64)
  | str (s : String)
  | arr (items : List Json)
  | obj (members : List (String × Json))
  deriving Inhabited, BEq

namespace Json

mutual

/-- The greatest number of digits that an integer in a value has. -/
def digits : Json → Nat
  | .null => 0
  | .bool _ => 0
  | .int n => digitCount n
  | .float _ => 0
  | .str _ => 0
  | .arr vs => itemsDigits vs
  | .obj ms => membersDigits ms

/-- The same for all items of an array. -/
def itemsDigits : List Json → Nat
  | [] => 0
  | v :: rest => max (digits v) (itemsDigits rest)

/-- The same for the values of all members of an object. -/
def membersDigits : List (String × Json) → Nat
  | [] => 0
  | (_, v) :: rest => max (digits v) (membersDigits rest)

end

/-- Whether all integers in a value are converted. -/
def fits (limits : Limits) (v : Json) : Bool :=
  limits.allows v.digits

/-- The members of an object; other values have none. -/
def members : Json → Assoc String Json
  | .obj ms => ms
  | _ => []

/-- The items of an array; other values have none. -/
def items : Json → List Json
  | .arr vs => vs
  | _ => []

/-- The text of a string; other values have none. -/
def text? : Json → Option String
  | .str s => some s
  | _ => none

/-- Whether a value is an object. -/
def isObject : Json → Bool
  | .obj _ => true
  | _ => false

/-- The member of a name, `null` if there is none. -/
def get (v : Json) (key : String) : Json :=
  (v.members.get? key).getD .null

/-- Whether an object has a member of a name, `null` included. -/
def hasMember (v : Json) (key : String) : Bool :=
  v.members.contains key

/-- Whether a value counts as true: anything but `null`, `false`, zero and what is empty. -/
def isTruthy : Json → Bool
  | .null => false
  | .bool b => b
  | .int n => n != 0
  | .float x => !x.isZero
  | .str s => !s.isEmpty
  | .arr vs => !vs.isEmpty
  | .obj ms => !ms.isEmpty

/-- The first value if it counts as true, the second otherwise. -/
def orElse (v w : Json) : Json :=
  if v.isTruthy then v else w

/-- The first value that is not `null`, or `null`. -/
def firstPresent : List Json → Json
  | [] => .null
  | .null :: rest => firstPresent rest
  | v :: _ => v

end Json

end SalonBooking
