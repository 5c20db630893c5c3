import SalonBooking.Json.Display

/-!
# What a customer has entered

A selection holds the customer's details, the menus in the order in which they
were chosen, what was chosen under each menu, and the wished dates and times.
`Selection.ofJson` reads one that was posted: either one menu with its submenu
item and options, or a list of such entries under `menus`.
-/

namespace SalonBooking

/-- A wished date and time, as they were entered. -/
structure DesiredTime where
  date : String
  time : String
  deriving DecidableEq, Repr

/-- What a customer has entered so far. -/
structure Selection where
  name : String
  phone : String
  gender : String
  visitCount : String
  coupon : String
  /-- Answers to the salon's own questions, under the ids of the questions. -/
  customFields : Assoc String Json
  /-- The ids of the chosen menus, in the order of choosing. -/
  menuIds : List String
  /-- The id of the chosen item under each submenu, under the ids of the menus. -/
  submenuIds : Assoc String String
  /-- The ids of the chosen options in the order of choosing, under the ids of the menus. -/
  selectedOptions : Assoc String (List String)
  desired : DesiredTime
  /-- The second and third wish. -/
  alternates : List DesiredTime
  message : String

/-- Why a posted selection cannot be read. -/
inductive SelectionError where
  /-- The further wishes are neither a list nor a text, nor left out. -/
  | malformedAlternates
  /-- An integer in a further wish has too many digits. -/
  | integerTooLong
  deriving DecidableEq, Repr

namespace DesiredTime

/-- No wish. -/
def empty : DesiredTime := ⟨"", ""⟩

/-- Whether both the date and the time are there. -/
def isComplete (d : DesiredTime) : Bool :=
  !d.date.isEmpty && !d.time.isEmpty

/-- The text of a value that counts as true, empty for the others. -/
def shown (v : Json) : String :=
  if v.isTruthy then v.display else ""

/-- A posted wish. -/
def ofJson (v : Json) : DesiredTime :=
  ⟨shown (v.get "date"), shown (v.get "time")⟩

/-- Whether the texts of a posted wish can be taken. -/
def hasTexts (limits : Limits) (v : Json) : Bool :=
  (v.get "date").fits limits && (v.get "time").fits limits

end DesiredTime

namespace Selection

/-- Nothing entered. -/
def empty : Selection where
  name := ""
  phone := ""
  gender := ""
  visitCount := ""
  coupon := ""
  customFields := []
  menuIds := []
  submenuIds := []
  selectedOptions := []
  desired := .empty
  alternates := []
  message := ""

instance : Inhabited Selection := ⟨empty⟩

/-- The options chosen under a menu. -/
def optionsOf (sel : Selection) (menuId : String) : List String :=
  (sel.selectedOptions.get? menuId).getD []

/-- The answer to a question, `null` if there is none. -/
def answer (sel : Selection) (fieldId : String) : Json :=
  (sel.customFields.get? fieldId).getD .null

/-! ## Reading -/

/-- A member that is a string, empty if it is anything else. -/
def textMember (v : Json) (key : String) : String :=
  (v.get key).text?.getD ""

/-- The strings of a list. -/
def strings (v : Json) : List String :=
  v.items.filterMap Json.text?

/-- A selection with the menu of one posted entry added.  Entries without a menu, and further
entries of a menu, are passed over. -/
def addEntry (sel : Selection) (entry : Json) : Selection :=
  let menuId := textMember entry "menu_id"
  if menuId.isEmpty || sel.menuIds.contains menuId then sel
  else
    let item := textMember entry "submenu_id"
    let options := strings (entry.get "option_ids")
    { sel with
      menuIds := sel.menuIds ++ [menuId]
      submenuIds := if item.isEmpty then sel.submenuIds else Assoc.set menuId item sel.submenuIds
      selectedOptions :=
        if options.isEmpty then sel.selectedOptions
        else Assoc.set menuId options sel.selectedOptions }

/-- The posted entries: those of the list under `menus`, or the selection itself as one entry. -/
def entries (v : Json) : List Json :=
  match v.get "menus" with
  | .arr vs => vs.filter Json.isObject
  | _ => [v]

/-- The second and third wish: the first two of a list.  A text has none. -/
def readAlternates (limits : Limits) (v : Json) : Except SelectionError (List DesiredTime) :=
  match v with
  | .arr vs =>
    let wishes := (vs.take 2).filter Json.isObject
    if wishes.all (DesiredTime.hasTexts limits) then .ok (wishes.map DesiredTime.ofJson)
    else .error .integerTooLong
  | .str _ => .ok []
  | v => if v.isTruthy then .error .malformedAlternates else .ok []

/-- A posted selection. -/
def ofJson (limits : Limits) (v : Json) : Except SelectionError Selection := do
  let alternates ← readAlternates limits (v.get "alternates")
  let chosen := (entries v).foldl addEntry empty
  return { chosen with
    name := textMember v "name"
    phone := textMember v "phone"
    gender := textMember v "gender"
    visitCount := textMember v "visit_count"
    coupon := textMember v "coupon"
    customFields := (v.get "custom_fields").members
    desired := ⟨textMember v "date", textMember v "time"⟩
    alternates := alternates
    message := textMember v "message" }

end Selection

end SalonBooking
