import SalonBooking.Data.Parts
import SalonBooking.Form.Config
import SalonBooking.Json.Display

/-!
# Answers to the salon's own questions

The text of an answer, whatever kind of value it is: a list is the labels of
its entries with commas between them, the answer to a radio question its
label, everything else the text of the value.
-/

namespace SalonBooking.CustomField

/-- The text of an answer. -/
def answerText (field : CustomField) : Json → String
  | .null => ""
  | .arr vs =>
    joinNonEmpty ", " (vs.map fun v => field.labelFor v.display)
  | v => if field.kind == .radio then field.labelFor v.display else v.display

end SalonBooking.CustomField
