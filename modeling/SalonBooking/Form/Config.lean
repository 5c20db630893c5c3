import SalonBooking.Form.Catalogue
import SalonBooking.Form.Choice
import SalonBooking.Form.Schedule

/-!
# The configuration of a form

Everything that a booking form is made from, complete: whatever was left out or
could not be read has its default.  `FormConfig.toJson` is the form in which a
configuration is stored and embedded in the page.
-/

namespace SalonBooking

/-- What the page says about the salon. -/
structure BasicInfo where
  formName : String
  storeName : String
  themeColor : String
  /-- The id of the messaging application, empty if it is not used. -/
  liffId : String
  logoUrl : String
  deriving DecidableEq, Repr

/-- The corners of buttons. -/
inductive ButtonStyle where
  | rounded
  | square
  deriving DecidableEq, Repr

/-- Settings of the page's appearance. -/
structure UiSettings where
  themeColor : String
  buttonStyle : ButtonStyle
  showRepeatBooking : Bool
  /-- Only the editor's preview looks at this one. -/
  showSideNav : Bool
  deriving DecidableEq, Repr

/-- The kinds of questions that a salon can add. -/
inductive FieldKind where
  | text
  | textarea
  | radio
  | checkbox
  deriving DecidableEq, Repr

/-- A question that a salon has added. -/
structure CustomField where
  id : String
  title : String
  kind : FieldKind
  required : Bool
  placeholder : String
  options : List Choice
  deriving DecidableEq, Repr

/-- The configuration of a form. -/
structure FormConfig where
  basicInfo : BasicInfo
  gender : ChoiceBlock
  visitCount : ChoiceBlock
  coupon : ChoiceBlock
  catalogue : Catalogue
  schedule : Schedule
  ui : UiSettings
  customFields : List CustomField
  deriving DecidableEq, Repr

namespace ButtonStyle

/-- The word for a style. -/
def name : ButtonStyle → String
  | .rounded => "rounded"
  | .square => "square"

end ButtonStyle

namespace FieldKind

/-- The word for a kind. -/
def name : FieldKind → String
  | .text => "text"
  | .textarea => "textarea"
  | .radio => "radio"
  | .checkbox => "checkbox"

/-- The kind of a word. -/
def ofName? (s : String) : Option FieldKind :=
  [FieldKind.text, .textarea, .radio, .checkbox].find? (·.name == s)

/-- Whether a question of this kind is answered by choosing. -/
def hasChoices : FieldKind → Bool
  | .text => false
  | .textarea => false
  | .radio => true
  | .checkbox => true

end FieldKind

namespace CustomField

/-- The label of an answer, the answer itself if it is none of the choices. -/
def labelFor (field : CustomField) (value : String) : String :=
  (labelOf? field.options value).getD value

end CustomField

namespace FormConfig

/-- Whether the customer names up to three wishes instead of a slot of the calendar. -/
def isMultipleDates (config : FormConfig) : Bool :=
  config.schedule.mode == .multipleDates

end FormConfig

/-! ## As stored -/

/-- The salon's details as they are stored. -/
def BasicInfo.toJson (b : BasicInfo) : Json :=
  .obj [("form_name", .str b.formName), ("store_name", .str b.storeName),
    ("theme_color", .str b.themeColor), ("liff_id", .str b.liffId), ("logo_url", .str b.logoUrl)]

/-- The settings of the appearance as they are stored. -/
def UiSettings.toJson (u : UiSettings) : Json :=
  .obj [("theme_color", .str u.themeColor), ("button_style", .str u.buttonStyle.name),
    ("show_repeat_booking", .bool u.showRepeatBooking), ("show_side_nav", .bool u.showSideNav)]

/-- A question as it is stored. -/
def CustomField.toJson (f : CustomField) : Json :=
  .obj [("id", .str f.id), ("title", .str f.title), ("type", .str f.kind.name),
    ("required", .bool f.required), ("placeholder", .str f.placeholder),
    ("options", .arr (f.options.map Choice.toJson))]

/-- A configuration as it is stored. -/
def FormConfig.toJson (c : FormConfig) : Json :=
  .obj [("basic_info", c.basicInfo.toJson), ("gender_selection", c.gender.toJson),
    ("visit_count_selection", c.visitCount.toJson), ("coupon_selection", c.coupon.toJson),
    ("menu_structure", c.catalogue.toJson), ("calendar_settings", c.schedule.toJson),
    ("ui_settings", c.ui.toJson), ("custom_fields", .arr (c.customFields.map CustomField.toJson))]

end SalonBooking
