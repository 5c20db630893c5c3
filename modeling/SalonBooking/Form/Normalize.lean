import SalonBooking.Form.Reading
import SalonBooking.Json.Reader

/-!
# Making a configuration complete

A form is made from a configuration as it is stored: a bare configuration, a
record with the configuration under `config`, or the JSON text of either.
`normalize` fills in everything that is missing and fails only on what is not
an object at all, on a text whose parts stand too deep inside each other, and
where a text is expected on an integer with more digits than the machine
converts.

A record is told from a bare configuration by having no `basic_info` of its
own.  The form's name, the messaging id, the business rules and the catalogue
of a record stand in for what its configuration lacks, and so do the switches
of its `ui_settings`.
-/

namespace SalonBooking

/-- Why a configuration cannot be read. -/
inductive ConfigError where
  /-- The text or the bytes are no JSON. -/
  | notJson
  /-- The value is of another kind than an object. -/
  | notAnObject (kind : String)
  /-- A text is given up because its parts stand too deep inside each other. -/
  | tooDeep
  /-- An integer that stands in the place of a text has too many digits. -/
  | integerTooLong
  deriving DecidableEq, Repr

namespace ConfigError

/-- The error of a text that is not read. -/
def ofReadError : Json.ReadError → ConfigError
  | .tooDeep => .tooDeep
  | _ => .notJson

/-- The text of an error.  What nobody promised to report has no text of its own. -/
def message? : ConfigError → Option String
  | .notJson => some "form config is not valid JSON"
  | .notAnObject kind => some ("form config must be an object, got " ++ kind)
  | .tooDeep => none
  | .integerTooLong => none

end ConfigError

/-- The word for the kind of a value. -/
def Json.kindName : Json → String
  | .null => "NoneType"
  | .bool _ => "bool"
  | .int _ => "int"
  | .float _ => "float"
  | .str _ => "str"
  | .arr _ => "list"
  | .obj _ => "dict"

/-- What a form is made from. -/
inductive Source where
  /-- A configuration that is already complete. -/
  | config (c : FormConfig)
  | value (v : Json)
  | bytes (b : ByteArray)

/-- A configuration, and the record that it was stored in. -/
structure StoredForm where
  config : Json
  /-- The record around the configuration; the configuration itself if it is bare. -/
  record : Json
  /-- The settings of the record that stand in for those of a configuration inside it. -/
  recordUi : Json

namespace StoredForm

/-- What a record has as its configuration, read if it is a text.  A text that is no JSON counts as
nothing. -/
def inner (limits : Limits) (record : Json) : Except ConfigError Json :=
  match record.get "config" with
  | .str s =>
    match Json.read limits s with
    | .ok v => .ok v
    | .error .tooDeep => .error .tooDeep
    | .error _ => .ok .null
  | v => .ok v

/-- An object as a record with a configuration inside, or as a bare configuration. -/
def ofObject (limits : Limits) (v : Json) : Except ConfigError StoredForm :=
  (inner limits v).map fun config =>
    if config.isObject && !v.hasMember "basic_info" then ⟨config, v, v.get "ui_settings"⟩
    else ⟨v, v, .null⟩

/-- A value as a stored form, if it is an object. -/
def ofJson (limits : Limits) (v : Json) : Except ConfigError StoredForm :=
  if v.isObject then ofObject limits v else .error (.notAnObject v.kindName)

/-- A text that has been read as JSON, or could not be. -/
def ofText (limits : Limits) : Except Json.ReadError Json → Except ConfigError StoredForm
  | .ok v => ofJson limits v
  | .error e => .error (.ofReadError e)

/-- The stored form that a source holds. -/
def ofSource (limits : Limits) : Source → Except ConfigError StoredForm
  | .config c => .ok ⟨c.toJson, .obj [], .null⟩
  | .value (.str s) => ofText limits (Json.read limits s)
  | .value v => ofJson limits v
  | .bytes b => ofText limits (Json.readBytes limits b)

end StoredForm

/-! ## Defaults -/

/-- The name of a form that has none. -/
def defaultFormName : String := "フォーム"

/-- The color of a form that has none. -/
def defaultThemeColor : String := "#3B82F6"

/-- The choices of gender. -/
def defaultGenders : List Choice := [⟨"male", "男性"⟩, ⟨"female", "女性"⟩]

/-- The choices of the number of visits. -/
def defaultVisitCounts : List Choice := [⟨"first", "初回"⟩, ⟨"repeat", "2回目以降"⟩]

/-- The choices about a coupon. -/
def defaultCoupons : List Choice := [⟨"use", "利用する"⟩, ⟨"not_use", "利用しない"⟩]

/-! ## Colors -/

/-- Whether a character is a hexadecimal digit. -/
def isHexDigit (c : Char) : Bool :=
  (Text.hexValue? c).isSome

/-- A color: a number sign and 3, 4, 6 or 8 hexadecimal digits, blanks around them dropped. -/
def readColor? : Json → Option String
  | .str s =>
    match Text.trimBy Text.isBlank s.toList with
    | '#' :: digits =>
      if [3, 4, 6, 8].contains digits.length && digits.all isHexDigit then
        some (String.ofList ('#' :: digits))
      else none
    | _ => none
  | _ => none

/-- The first color among some values. -/
def themeColor (candidates : List Json) : String :=
  (candidates.findSome? readColor?).getD defaultThemeColor

/-! ## The configuration -/

/-- The salon's details.  The name of the record comes before that of the configuration. -/
def BasicInfo.ofStored (form : StoredForm) : BasicInfo :=
  let basic := form.config.get "basic_info"
  { formName := orText (form.record.get "form_name").asText
      (orText (basic.get "form_name").asText defaultFormName)
    storeName := (basic.get "store_name").asText
    themeColor := SalonBooking.themeColor [basic.get "theme_color"]
    liffId := orText (basic.get "liff_id").asText
      ((form.record.get "line_settings").get "liff_id").asText
    logoUrl := (basic.get "logo_url").asText }

/-- The texts that make the salon's details.  What stands in for a text is looked at only if that
is empty. -/
def BasicInfo.texts (form : StoredForm) : List Json :=
  let basic := form.config.get "basic_info"
  let name := form.record.get "form_name"
  let liffId := basic.get "liff_id"
  [name] ++ itemIf name.asText.isEmpty (basic.get "form_name") ++
    [basic.get "store_name", liffId] ++
    itemIf liffId.asText.isEmpty ((form.record.get "line_settings").get "liff_id") ++
    [basic.get "logo_url"]

/-- The settings of the appearance. -/
def UiSettings.ofStored (form : StoredForm) : UiSettings :=
  let ui := form.config.get "ui_settings"
  let basic := form.config.get "basic_info"
  let setting (key : String) := Json.firstPresent [ui.get key, form.recordUi.get key]
  { themeColor := SalonBooking.themeColor
      [ui.get "theme_color", basic.get "theme_color", form.recordUi.get "theme_color"]
    buttonStyle := if (ui.get "button_style").asText == "square" then .square else .rounded
    showRepeatBooking := (setting "show_repeat_booking").boolOr false
    showSideNav := (setting "show_side_nav").boolOr true }

/-- The complete configuration of a stored form. -/
def FormConfig.ofStored (form : StoredForm) : FormConfig :=
  let config := form.config
  let ui := config.get "ui_settings"
  let setting (key : String) := Json.firstPresent [ui.get key, form.recordUi.get key]
  { basicInfo := BasicInfo.ofStored form
    gender := .ofJson defaultGenders ((config.get "basic_info").get "show_gender_selection")
      (config.get "gender_selection")
    visitCount := .ofJson defaultVisitCounts (setting "show_visit_count")
      (config.get "visit_count_selection")
    coupon := .ofJson defaultCoupons (setting "show_coupon_selection")
      (config.get "coupon_selection")
    catalogue := .ofJson (form.record.get "menu_structure") (config.get "menu_structure")
    schedule := .ofJson (form.record.get "business_rules") (config.get "calendar_settings")
    ui := UiSettings.ofStored form
    customFields := readCustomFields (config.get "custom_fields") }

/-- The texts that make a configuration. -/
def StoredForm.texts (form : StoredForm) : List Json :=
  let config := form.config
  BasicInfo.texts form ++
    ["gender_selection", "visit_count_selection", "coupon_selection"].flatMap
      (fun key => ChoiceBlock.texts (config.get key)) ++
    Catalogue.texts (form.record.get "menu_structure") (config.get "menu_structure") ++
    Schedule.texts (form.record.get "business_rules") (config.get "calendar_settings") ++
    [(config.get "ui_settings").get "button_style"] ++
    (config.get "custom_fields").items.flatMap CustomField.texts

/-- The configuration of a stored form on a machine that may not convert all its integers. -/
def FormConfig.ofStored? (limits : Limits) (form : StoredForm) : Except ConfigError FormConfig :=
  if form.texts.all (Json.hasText limits) then .ok (.ofStored form) else .error .integerTooLong

/-- The complete configuration that a source describes. -/
def normalize (limits : Limits) (source : Source) : Except ConfigError FormConfig :=
  (StoredForm.ofSource limits source).bind (FormConfig.ofStored? limits)

end SalonBooking
