import SalonBooking.Availability.Grid
import SalonBooking.Form.Normalize
import SalonBooking.Json.Printer
import SalonBooking.Page.ActionIndex
import SalonBooking.Page.DateBlock
import SalonBooking.Page.MenuBlock
import SalonBooking.Page.Stylesheet

/-!
# The page of a form

The page is one document without further files.  Its last element is the
script: first constants that hold the configuration, the ids, the action index
and the tables of times as JSON, then the code that every page shares.

A page is a function of the configuration and the two ids alone.  An id is a text;
`FormConfig.pageFor` takes any value in its place.
-/

namespace SalonBooking

namespace Page

/-- What the page says in place of a salon's name. -/
def defaultHeading : String := "ご予約フォーム"

/-- The salon's logo. -/
def logo (info : BasicInfo) : List Node :=
  itemIf (!info.logoUrl.isEmpty)
    (el "img" [("src", info.logoUrl), ("alt", orText info.storeName info.formName),
      ("class", "form-logo")] [])

/-- The head of the form: logo, name of the form and name of the salon. -/
def header (info : BasicInfo) : Node :=
  el "div" [("class", "form-header")]
    (logo info ++
      [el "h1" [] [info.formName], el "p" [] [orText info.storeName defaultHeading]])

/-- The summary of what has been entered. -/
def summaryBox : Node :=
  el "div" [("class", "summary-box")]
    [el "h3" [("class", "summary-title")] ["ご予約内容"],
      el "div" [("id", "summary-content"), ("data-action", "edit-field")]
        [el "div" [("class", "summary-empty")] ["入力内容がここに表示されます"]]]

/-- The place where an error is shown. -/
def errorBox : Node :=
  el "div" [("id", "form-error"), ("class", "form-error"), ("role", "alert"),
    ("hidden", .flag true)] []

/-- The button that sends the booking. -/
def submitButton : Node :=
  el "button" [("type", "button"), ("id", "submit-button"), ("class", "submit-button"),
    ("data-action", "submit")] ["予約する"]

/-- The blocks in which the customer chooses dates. -/
def dateFields (config : FormConfig) : List Node :=
  if config.isMultipleDates then pickerFields config.schedule.pickerTimes else [calendarField]

/-- All blocks of the form, in their order. -/
def fields (config : FormConfig) : List Node :=
  itemIf config.ui.showRepeatBooking repeatBookingField ++
  [nameField, phoneField] ++
  choiceFields config ++
  config.customFields.map customField ++
  menuField config.catalogue ++
  dateFields config ++
  [messageField, summaryBox, errorBox, submitButton]

/-- The form itself. -/
def container (config : FormConfig) : Node :=
  el "div" [("class", "form-container")]
    [header config.basicInfo,
      el "div" [("class", "form-content")]
        (el "h2" [("class", "section-title")] ["ご予約内容"] :: fields config)]

/-- The head of the document. -/
def head (config : FormConfig) : Node :=
  el "head" []
    [el "meta" [("charset", "UTF-8")] [],
      el "meta" [("name", "viewport"), ("content", "width=device-width, initial-scale=1.0")] [],
      el "title" [] [config.basicInfo.formName],
      el "script" [("src", messagingScriptUrl)] [],
      el "style" [] [.raw (stylesheet config)]]

/-- The document with further nodes at the end of its body. -/
def treeWith (config : FormConfig) (atEnd : List Node) : Node :=
  el "html" [("lang", "ja")] [head config, el "body" [] (container config :: atEnd)]

/-- The document without its script. -/
def tree (config : FormConfig) : Node :=
  treeWith config []

/-- The tables of times that the script uses. -/
def slotTables (config : FormConfig) : Json :=
  let texts (times : List String) : Json := .arr (times.map .str)
  .obj [("calendar_rows", texts config.schedule.rowTimes),
    ("multiple_dates_times", texts config.schedule.pickerTimes)]

/-- The declaration of a constant of the script. -/
def constant (name : String) (value : Json) : String :=
  "const " ++ name ++ " = " ++ value.embed ++ ";\n"

/-- The script of a page: the constants and the shared code, closed off from the rest. -/
def controllerScript (config : FormConfig) (formId storeId : Json)
    (index : List (String × String)) : String :=
  "\n(function () \x7b\n'use strict';\n" ++
    constant "FORM_CONFIG" config.toJson ++
    constant "FORM_ID" formId ++
    constant "STORE_ID" storeId ++
    constant "ACTION_INDEX" (indexJson index) ++
    constant "SLOT_TABLES" (slotTables config) ++
    clientScript ++ "\x7d)();\n"

/-- The values of the constants of the script. -/
def constantValues (config : FormConfig) (formId storeId : Json)
    (index : List (String × String)) : List Json :=
  [config.toJson, formId, storeId, indexJson index, slotTables config]

/-- The element of the script. -/
def scriptElement (config : FormConfig) (formId storeId : Json)
    (index : List (String × String)) : Node :=
  el "script" [] [.raw (controllerScript config formId storeId index)]

end Page

/-- The page of a configuration, with any values for ids. -/
def FormConfig.pageFor (limits : Limits) (config : FormConfig) (formId storeId : Json) :
    Except PageError String :=
  match Page.actionIndex (Page.tree config) with
  | .ok index =>
    if (Page.constantValues config formId storeId index).all (Json.fits limits) then
      let root := Page.treeWith config [Page.scriptElement config formId storeId index]
      (root.renderDocument limits).mapError .markup
    else .error .integerTooLong
  | .error e => .error e

/-- The page of a configuration. -/
def FormConfig.page (limits : Limits) (config : FormConfig) (formId storeId : String) :
    Except PageError String :=
  config.pageFor limits (.str formId) (.str storeId)

/-- Why there is no page for a source. -/
inductive GenerateError where
  | config (e : ConfigError)
  | page (e : PageError)
  deriving DecidableEq, Repr

/-- The text of an error, if it has one of its own. -/
def GenerateError.message? : GenerateError → Option String
  | .config e => e.message?
  | .page e => e.message?

/-- The page that a source describes, with any values for ids. -/
def generateFor (limits : Limits) (source : Source) (formId storeId : Json) :
    Except GenerateError String :=
  match normalize limits source with
  | .ok config => (config.pageFor limits formId storeId).mapError .page
  | .error e => .error (.config e)

/-- The page that a source describes. -/
def generate (limits : Limits) (source : Source) (formId storeId : String) :
    Except GenerateError String :=
  generateFor limits source (.str formId) (.str storeId)

end SalonBooking
