import SalonBooking.Json.Basic

/-!
# Choices

A choice is a value that is stored and a label that is shown.  A choice block
asks the customer for one of a few choices: gender, number of visits, coupon.
-/

namespace SalonBooking

/-- One choice: the value that is stored and the label that is shown. -/
structure Choice where
  value : String
  label : String
  deriving DecidableEq, Repr

/-- An optional question with a single answer. -/
structure ChoiceBlock where
  enabled : Bool
  required : Bool
  options : List Choice
  /-- The name of the coupon, if the block asks for one. -/
  couponName : String
  deriving DecidableEq, Repr

/-- The label of the first choice with a value. -/
def labelOf? (options : List Choice) (value : String) : Option String :=
  (options.find? (·.value == value)).map (·.label)

namespace Choice

/-- A choice as it is stored. -/
def toJson (c : Choice) : Json :=
  .obj [("value", .str c.value), ("label", .str c.label)]

end Choice

namespace ChoiceBlock

/-- The label shown for an answer: none if the block is off or nothing was answered. -/
def answerLabel (block : ChoiceBlock) (value : String) : String :=
  if !block.enabled || value.isEmpty then "" else (labelOf? block.options value).getD ""

/-- A block as it is stored; the name of the coupon is left out if there is none. -/
def toJson (block : ChoiceBlock) : Json :=
  .obj ([("enabled", .bool block.enabled), ("required", .bool block.required),
    ("options", .arr (block.options.map Choice.toJson))] ++
    if block.couponName.isEmpty then [] else [("coupon_name", .str block.couponName)])

end ChoiceBlock

end SalonBooking
