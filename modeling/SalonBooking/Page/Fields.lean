import SalonBooking.Data.Parts
import SalonBooking.Form.Config
import SalonBooking.Markup.Node

/-!
# Fields of the page

The customer's details, the choice blocks and the salon's own questions, each
as a block with a label.
-/

namespace SalonBooking.Page

/-- An element. -/
def el (tag : String) (attrs : List (String × AttrValue)) (children : List Node) : Node :=
  .element tag attrs children

/-- A text attribute that is left out if the text is empty. -/
def attrUnlessEmpty (s : String) : AttrValue :=
  if s.isEmpty then .absent else .text s

/-- The star beside the label of what has to be filled in. -/
def requiredMark : Node :=
  el "span" [("class", "required")] ["*"]

/-- The label of a field. -/
def label (text : String) (required : Bool) (forId : AttrValue) : Node :=
  el "label" [("class", "field-label"), ("for", forId)]
    ([.text text] ++ if required then [.text " ", requiredMark] else [])

/-- The button of one choice. -/
def choiceButton (group : String) (choice : Choice) : Node :=
  el "button" [("type", "button"), ("class", "choice-button"), ("data-action", "select-choice"),
    ("data-group", group), ("data-value", choice.value)] [choice.label]

/-- A choice block. -/
def choiceField (id title group : String) (block : ChoiceBlock) : Node :=
  el "div" [("class", "field"), ("id", id)]
    [label title block.required .absent,
      el "div" [("class", "button-group")] (block.options.map (choiceButton group))]

/-- The id of the element of a question. -/
def customFieldId (field : CustomField) : String :=
  "custom-field-" ++ field.id

/-- The attributes of a question that is answered in writing. -/
def writtenAttrs (field : CustomField) : List (String × AttrValue) :=
  [("id", customFieldId field), ("class", "input"), ("data-action", "input-custom-field"),
    ("data-field-id", field.id), ("placeholder", attrUnlessEmpty field.placeholder)]

/-- The block of a question that is answered in writing. -/
def writtenField (field : CustomField) (control : Node) : Node :=
  let id := customFieldId field
  el "div" [("class", "field"), ("id", id ++ "-block")]
    [label field.title field.required id, control]

/-- The button of one answer to a radio question. -/
def radioButton (field : CustomField) (choice : Choice) : Node :=
  el "button" [("type", "button"), ("class", "choice-button"),
    ("data-action", "select-custom-radio"), ("data-field-id", field.id),
    ("data-value", choice.value)] [choice.label]

/-- The check box of one answer to a checkbox question. -/
def checkBox (field : CustomField) (choice : Choice) : Node :=
  el "label" [("class", "checkbox-label")]
    [el "input" [("type", "checkbox"), ("data-action", "toggle-custom-checkbox"),
        ("data-field-id", field.id), ("data-value", choice.value)] [],
      el "span" [] [choice.label]]

/-- The block of a question that is answered by choosing. -/
def chosenField (field : CustomField) (groupClass : String) (controls : List Node) : Node :=
  el "div" [("class", "field"), ("id", customFieldId field)]
    [label field.title field.required .absent, el "div" [("class", groupClass)] controls]

/-- The block of one of the salon's own questions. -/
def customField (field : CustomField) : Node :=
  match field.kind with
  | .text => writtenField field (el "input" (("type", "text") :: writtenAttrs field) [])
  | .textarea =>
    writtenField field (el "textarea" (writtenAttrs field ++ [("rows", .number 4)]) [])
  | .radio => chosenField field "button-group" (field.options.map (radioButton field))
  | .checkbox => chosenField field "checkbox-group" (field.options.map (checkBox field))

/-- The block of one of the customer's details; `controlId` is the id of the control. -/
def detailField (id title : String) (required : Bool) (controlId : String) (control : Node) :
    Node :=
  el "div" [("class", "field"), ("id", id)] [label title required controlId, control]

/-- The customer's name. -/
def nameField : Node :=
  detailField "name-field" "お名前" true "customer-name"
    (el "input" [("type", "text"), ("id", "customer-name"), ("class", "input"),
      ("placeholder", "山田太郎"), ("data-action", "input-text"), ("data-field", "name")] [])

/-- The customer's telephone number. -/
def phoneField : Node :=
  detailField "phone-field" "電話番号" true "customer-phone"
    (el "input" [("type", "tel"), ("id", "customer-phone"), ("class", "input"),
      ("placeholder", "090-1234-5678"), ("data-action", "input-text"), ("data-field", "phone")] [])

/-- The customer's message. -/
def messageField : Node :=
  detailField "message-field" "メッセージ（任意）" false "customer-message"
    (el "textarea" [("id", "customer-message"), ("class", "input"), ("rows", .number 3),
      ("placeholder", "ご質問やご要望がございましたらこちらにご記入ください"),
      ("data-action", "input-text"), ("data-field", "message")] [])

/-- The button that fills in the last booking. -/
def repeatBookingField : Node :=
  el "div" [("class", "field")]
    [el "button" [("type", "button"), ("id", "repeat-booking-button"),
      ("class", "repeat-booking-button"), ("data-action", "repeat-booking")]
      ["前回と同じメニューで予約する"]]

/-- The label of the coupon block. -/
def couponTitle (block : ChoiceBlock) : String :=
  block.couponName ++ "クーポン利用有無"

/-- The choice blocks that are switched on. -/
def choiceFields (config : FormConfig) : List Node :=
  itemIf config.gender.enabled (choiceField "gender-field" "性別" "gender" config.gender) ++
  itemIf config.visitCount.enabled
    (choiceField "visit-count-field" "ご来店回数" "visitCount" config.visitCount) ++
  itemIf config.coupon.enabled
    (choiceField "coupon-field" (couponTitle config.coupon) "coupon" config.coupon)

end SalonBooking.Page
