import SalonBooking.Data.Parts
import SalonBooking.Form.Config
import SalonBooking.Json.Coerce

/-!
# Reading the parts of a configuration

Each part is read from whatever JSON value stands in its place.  Missing and
malformed values are replaced by defaults and never refused, so a half-finished
configuration still makes a form.

Entries of a list that are not objects are left out.  An entry without an id
gets one from its position: categories, menus and custom fields count every
entry of their list, options and submenu items only those that are objects.

Nothing in the values makes reading fail but an integer in the place of a text,
if it has more digits than the machine converts.  Beside each reader its `texts`
are the values of which it takes the text.  An entry that is left out has no
members, and the text of a missing member can always be taken.
-/

namespace SalonBooking

/-! ## Choices -/

/-- A choice: value and label stand in for each other; without both there is no choice. -/
def Choice.ofJson? (v : Json) : Option Choice :=
  let value := (v.get "value").asText
  let label := (v.get "label").textOr value
  if value.isEmpty && label.isEmpty then none else some ⟨orText value label, orText label value⟩

/-- The texts that make a choice. -/
def Choice.texts (v : Json) : List Json :=
  [v.get "value", v.get "label"]

/-- The choices of a list, a default if there is none. -/
def readChoices (fallback : List Choice) (v : Json) : List Choice :=
  let choices := (v.items.filter Json.isObject).filterMap Choice.ofJson?
  if choices.isEmpty then fallback else choices

/-- The texts that make the choices of a list. -/
def choiceTexts (v : Json) : List Json :=
  v.items.flatMap Choice.texts

/-- A choice block; `legacySwitch` says whether it is on if the block itself does not. -/
def ChoiceBlock.ofJson (fallback : List Choice) (legacySwitch v : Json) : ChoiceBlock where
  enabled := (Json.firstPresent [v.get "enabled", legacySwitch]).boolOr false
  required := (v.get "required").boolOr false
  options := readChoices fallback (v.get "options")
  couponName := (v.get "coupon_name").asText

/-- The texts that make a choice block. -/
def ChoiceBlock.texts (v : Json) : List Json :=
  choiceTexts (v.get "options") ++ [v.get "coupon_name"]

/-! ## The catalogue -/

/-- The option at a position among the options of a menu. -/
def MenuOption.ofJson (position : Nat) (v : Json) : MenuOption where
  id := orText (v.get "id").asText ("option-" ++ toString position)
  name := (v.get "name").asText
  price := (v.get "price").natOr 0
  duration := (v.get "duration").natOr 0
  isDefault := (v.get "is_default").boolOr false
  description := (v.get "description").asText

/-- The texts that make an option. -/
def MenuOption.texts (v : Json) : List Json :=
  ["id", "name", "description"].map v.get

/-- The item at a position among the items of a submenu. -/
def SubmenuItem.ofJson (position : Nat) (v : Json) : SubmenuItem where
  id := orText (v.get "id").asText ("submenu-" ++ toString position)
  name := (v.get "name").asText
  price := (v.get "price").natOr 0
  duration := (v.get "duration").natOr 0
  description := (v.get "description").asText
  image := (v.get "image").asText

/-- The texts that make an item of a submenu. -/
def SubmenuItem.texts (v : Json) : List Json :=
  ["id", "name", "description", "image"].map v.get

/-- A menu.  It opens a submenu if it says so and has an item to show; else it is a leaf, and
items it may have are left out. -/
def Menu.ofJson (fallbackId : String) (v : Json) : Menu :=
  let id := orText (v.get "id").asText fallbackId
  let name := (v.get "name").asText
  let description := (v.get "description").asText
  let image := (v.get "image").asText
  let items := (v.get "sub_menu_items").items.filter Json.isObject
  if (v.get "has_submenu").boolOr false && !items.isEmpty then
    .submenu ⟨id, name, items.mapIdx SubmenuItem.ofJson, description, image⟩
  else
    let options := (v.get "options").items.filter Json.isObject
    .leaf ⟨id, name, (v.get "price").natOr 0, (v.get "duration").natOr 0,
      options.mapIdx MenuOption.ofJson, description, image⟩

/-- The texts that make a menu; the items or options that are left out have none in it. -/
def Menu.texts (v : Json) : List Json :=
  let items := (v.get "sub_menu_items").items.filter Json.isObject
  ["id", "name", "description", "image"].map v.get ++
    if (v.get "has_submenu").boolOr false && !items.isEmpty then items.flatMap SubmenuItem.texts
    else (v.get "options").items.flatMap MenuOption.texts

/-- The objects of a list, each read with its position in the list. -/
def readPositioned {α : Type} (read : Nat → Json → α) (vs : List Json) : List α :=
  (vs.mapIdx fun i v => (i, v)).filterMap fun (i, v) => if v.isObject then some (read i v) else none

@[simp] theorem readPositioned_nil {α : Type} (read : Nat → Json → α) :
    readPositioned read [] = [] := rfl

theorem readPositioned_cons {α : Type} (read : Nat → Json → α) (v : Json) (rest : List Json) :
    readPositioned read (v :: rest) =
      itemIf v.isObject (read 0 v) ++ readPositioned (fun i => read (i + 1)) rest := by
  have hshift : (rest.mapIdx fun i w => (i + 1, w)) =
      (rest.mapIdx fun i w => (i, w)).map fun (i, w) => (i + 1, w) :=
    List.ext_getElem (by simp) (by simp)
  rw [readPositioned, List.mapIdx_cons, List.filterMap_cons, hshift, List.filterMap_map]
  cases h : v.isObject <;> simp only [h, itemIf] <;> rfl

/-- The category at a position. -/
def Category.ofJson (position : Nat) (v : Json) : Category :=
  let id := orText (v.get "id").asText ("category-" ++ toString position)
  { id := id
    name := (v.get "name").asText
    menus := readPositioned (fun i => Menu.ofJson (id ++ "-menu-" ++ toString i))
      (v.get "menus").items
    mode := if (v.get "selection_mode").asText == "multiple" then .multiple else .single }

/-- The texts that make a category. -/
def Category.texts (v : Json) : List Json :=
  ["id", "name", "selection_mode"].map v.get ++ (v.get "menus").items.flatMap Menu.texts

/-- The display options: all but the last are on unless switched off. -/
def DisplayOptions.ofJson (v : Json) : DisplayOptions where
  price := (v.get "show_price").boolOr true
  duration := (v.get "show_duration").boolOr true
  description := (v.get "show_description").boolOr true
  treatmentInfo := (v.get "show_treatment_info").boolOr false

/-- The categories of a catalogue as they are stored, those of `legacy` if it has none. -/
def storedCategories (legacy v : Json) : List Json :=
  let own := (v.get "categories").items
  if own.isEmpty then (legacy.get "categories").items else own

/-- A catalogue.  The categories and the switch for crossing them come from `legacy` where the
catalogue itself has none. -/
def Catalogue.ofJson (legacy v : Json) : Catalogue :=
  let cross := "allow_cross_category_selection"
  { categories := readPositioned Category.ofJson (storedCategories legacy v)
    display := DisplayOptions.ofJson (v.get "display_options")
    structureType := orText (v.get "structure_type").asText "category_based"
    crossCategory := (Json.firstPresent [v.get cross, legacy.get cross]).boolOr false }

/-- The texts that make a catalogue. -/
def Catalogue.texts (legacy v : Json) : List Json :=
  (storedCategories legacy v).flatMap Category.texts ++ [v.get "structure_type"]

/-! ## The schedule -/

/-- Open from nine to six, except on Sunday. -/
def defaultHours (day : Weekday) : DayHours :=
  ⟨"09:00", "18:00", day == .sunday⟩

/-- The hours of a day. -/
def DayHours.ofJson (fallback : DayHours) (v : Json) : DayHours :=
  if v.isObject then
    { opens := (v.get "open").textOr fallback.opens
      closes := (v.get "close").textOr fallback.closes
      closed := (v.get "closed").boolOr false }
  else fallback

/-- The hours of all days. -/
def WeekHours.ofJson (v : Json) : WeekHours :=
  .ofFunction fun day => DayHours.ofJson (defaultHours day) (v.get day.name)

/-- The texts that make the hours of all days. -/
def WeekHours.texts (v : Json) : List Json :=
  Weekday.all.flatMap fun day => [(v.get day.name).get "open", (v.get day.name).get "close"]

/-- A positive number, a default for zero and for what is no number. -/
def positiveOr (fallback : Nat) (v : Json) : Nat :=
  let n := v.natOr fallback
  if n = 0 then fallback else n

/-- The day of a number from 0 to 6. -/
def Weekday.ofNumber? (n : Int) : Option Weekday :=
  if 0 ≤ n ∧ n ≤ 6 then some (.ofIndex n.toNat) else none

/-- The most days that multiple-dates mode offers. -/
def maxRangeDays : Nat := 365

/-- The settings of multiple-dates mode.  Sunday is excluded unless there is a list of excluded
days, even an empty or malformed one. -/
def MultipleDates.ofJson (v : Json) : MultipleDates :=
  let listed := (v.get "exclude_weekdays").items.filterMap fun w => Weekday.ofNumber? (w.intOr (-1))
  { step := (TimeStep.ofMinutes? ((v.get "time_interval").natOr 30)).getD .halfHour
    rangeDays := min (positiveOr 30 (v.get "date_range_days")) maxRangeDays
    excluded :=
      if v.hasMember "exclude_weekdays" then Weekday.all.filter fun day => listed.contains day
      else [.sunday]
    startTime := orText ((v.get "start_time").textOr "09:00") "09:00"
    endTime := orText ((v.get "end_time").textOr "18:00") "18:00" }

/-- The texts that make the settings of multiple-dates mode. -/
def MultipleDates.texts (v : Json) : List Json :=
  ["start_time", "end_time"].map v.get

/-- The business hours as they are stored; `rules` are the business rules of older records. -/
def storedHours (rules v : Json) : Json :=
  (v.get "business_hours").orElse (rules.get "business_hours")

/-- A schedule; `rules` are the business rules of older records. -/
def Schedule.ofJson (rules v : Json) : Schedule :=
  let advance := "advance_booking_days"
  { hours := WeekHours.ofJson (storedHours rules v)
    advanceDays := positiveOr 30 (Json.firstPresent [v.get advance, rules.get advance])
    mode := if (v.get "booking_mode").asText == "multiple_dates" then .multipleDates else .calendar
    multipleDates := MultipleDates.ofJson (v.get "multiple_dates_settings") }

/-- The texts that make a schedule. -/
def Schedule.texts (rules v : Json) : List Json :=
  WeekHours.texts (storedHours rules v) ++ [v.get "booking_mode"] ++
    MultipleDates.texts (v.get "multiple_dates_settings")

/-! ## Custom fields -/

/-- The question at a position: none if its kind is unknown or nothing can be chosen. -/
def CustomField.ofJson? (position : Nat) (v : Json) : Option CustomField := do
  let kind ← FieldKind.ofName? (v.get "type").asText
  let options := readChoices [] (v.get "options")
  if kind.hasChoices && options.isEmpty then none
  let id := orText (v.get "id").asText ("field-" ++ toString position)
  some
    { id := id
      title := orText (v.get "title").asText id
      kind := kind
      required := (v.get "required").boolOr false
      placeholder := (v.get "placeholder").asText
      options := options }

/-- The texts that make a question: its kind, then the choices if the kind is known, then the rest
unless nothing can be chosen. -/
def CustomField.texts (v : Json) : List Json :=
  v.get "type" ::
    match FieldKind.ofName? (v.get "type").asText with
    | none => []
    | some kind =>
      choiceTexts (v.get "options") ++
        if kind.hasChoices && (readChoices [] (v.get "options")).isEmpty then []
        else ["id", "title", "placeholder"].map v.get

/-- The questions of a list. -/
def readCustomFields (v : Json) : List CustomField :=
  (readPositioned CustomField.ofJson? v.items).filterMap id

end SalonBooking
