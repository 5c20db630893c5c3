import SalonBooking.Proofs.Form.WellFormed

/-!
# The shape of a stored configuration

What whoever reads a stored configuration may rely on: which members are there,
of which kind, and within which bounds.  The predicates are about JSON values
and know nothing of the records that are stored, so they say in full what the
types of the records leave out of `WellFormed`: that a price is a number and
not negative, that a mode is one of two words, that a week has seven days.

There is one predicate per record, and one lemma that the record is stored in
this shape.  `complete_of_normalize` is the statement for a whole form, whatever
it is made from.
-/

namespace SalonBooking

namespace Json

/-! ## Members -/

/-- A member that is a text, and not the empty one. -/
def HasText (v : Json) (key : String) : Prop :=
  ∃ s, v.get key = .str s ∧ s ≠ ""

/-- A member that is one of some words. -/
def HasWord (v : Json) (key : String) (words : List String) : Prop :=
  ∃ word ∈ words, v.get key = .str word

/-- A member that is a whole number of some kind. -/
def HasNumber (v : Json) (key : String) (p : Int → Prop) : Prop :=
  ∃ n, v.get key = .int n ∧ p n

/-- A member that is a list, all items of which are of some kind. -/
def HasList (v : Json) (key : String) (p : Json → Prop) : Prop :=
  ∃ items, v.get key = .arr items ∧ ∀ item ∈ items, p item

/-- A member that is such a list and not the empty one. -/
def HasFilledList (v : Json) (key : String) (p : Json → Prop) : Prop :=
  ∃ items, v.get key = .arr items ∧ items ≠ [] ∧ ∀ item ∈ items, p item

/-- The digits that a color is written with. -/
def colorDigits : List Char := "0123456789abcdefABCDEF".toList

/-- A member that is a color: a number sign and 3, 4, 6 or 8 hexadecimal digits. -/
def HasColor (v : Json) (key : String) : Prop :=
  ∃ digits : List Char, v.get key = .str (String.ofList ('#' :: digits)) ∧
    digits.length ∈ [3, 4, 6, 8] ∧ ∀ d ∈ digits, d ∈ colorDigits

variable {v : Json} {key : String} {p : Json → Prop}

theorem hasList_map {α : Type} {toJson : α → Json} {as : List α}
    (hget : v.get key = .arr (as.map toJson)) (h : ∀ a ∈ as, p (toJson a)) : v.HasList key p :=
  ⟨_, hget, List.forall_mem_map.mpr h⟩

theorem hasFilledList_map {α : Type} {toJson : α → Json} {as : List α}
    (hget : v.get key = .arr (as.map toJson)) (hne : as ≠ []) (h : ∀ a ∈ as, p (toJson a)) :
    v.HasFilledList key p :=
  ⟨_, hget, by simpa using hne, List.forall_mem_map.mpr h⟩

/-- A number of which there is no negative one. -/
theorem hasNumber_nat {n : Nat} (hget : v.get key = .int n) : v.HasNumber key (0 ≤ ·) :=
  ⟨n, hget, Int.natCast_nonneg n⟩

theorem mem_colorDigits {c : Char} (h : isHexDigit c = true) : c ∈ colorDigits := by
  -- The digits are ASCII, so it is enough to look at the characters of that range.
  have hall : ∀ n < 103, isHexDigit (Char.ofNat n) = true → Char.ofNat n ∈ colorDigits := by
    decide +kernel
  obtain ⟨-, hlimit⟩ := toNat_of_isHexDigit h
  have hback : Char.ofNat c.toNat = c := Char.ofNat_toNat c
  have hmem := hall c.toNat (Nat.lt_succ_of_le hlimit)
  rw [hback] at hmem
  exact hmem h

theorem hasColor_of_isColor {s : String} (hget : v.get key = .str s) (h : IsColor s) :
    v.HasColor key := by
  obtain ⟨digits, rfl, hlength, hdigits⟩ := h
  exact ⟨digits, hget, hlength, fun d hd => mem_colorDigits (hdigits d hd)⟩

/-! ## Choices -/

structure IsChoice (v : Json) : Prop where
  value : v.HasText "value"
  label : v.HasText "label"

structure IsChoiceBlock (v : Json) : Prop where
  options : v.HasFilledList "options" IsChoice

/-! ## The catalogue -/

/-- What an option has as well as an item of a submenu. -/
structure IsPriced (v : Json) : Prop where
  id : v.HasText "id"
  price : v.HasNumber "price" (0 ≤ ·)
  duration : v.HasNumber "duration" (0 ≤ ·)

/-- A menu has a price of its own and options, or it has items and neither of these. -/
inductive IsMenu (v : Json) : Prop where
  | leaf (hkind : v.get "has_submenu" = .bool false) (hpriced : v.IsPriced)
      (hoptions : v.HasList "options" IsPriced)
  | submenu (hkind : v.get "has_submenu" = .bool true) (hid : v.HasText "id")
      (hitems : v.HasFilledList "sub_menu_items" IsPriced)

structure IsCategory (v : Json) : Prop where
  id : v.HasText "id"
  mode : v.HasWord "selection_mode" ["single", "multiple"]
  menus : v.HasList "menus" IsMenu

structure IsCatalogue (v : Json) : Prop where
  structureType : v.HasText "structure_type"
  categories : v.HasList "categories" IsCategory

/-! ## The schedule -/

structure IsMultipleDates (v : Json) : Prop where
  step : v.HasNumber "time_interval" (· ∈ [15, 30, 60])
  rangeDays : v.HasNumber "date_range_days" fun n => 1 ≤ n ∧ n ≤ 365
  /-- The days stand in the order of their numbers, each at most once. -/
  excluded : ∃ days : List Int, v.get "exclude_weekdays" = .arr (days.map .int) ∧
    days.Pairwise (· < ·) ∧ ∀ n ∈ days, 0 ≤ n ∧ n ≤ 6
  startTime : v.HasText "start_time"
  endTime : v.HasText "end_time"

structure IsSchedule (v : Json) : Prop where
  /-- There are hours for the seven days of the week, and for nothing else. -/
  hours : ∃ hours, v.get "business_hours" = .obj hours ∧ (Assoc.keys hours).Perm
    ["sunday", "monday", "tuesday", "wednesday", "thursday", "friday", "saturday"]
  advanceDays : v.HasNumber "advance_booking_days" (1 ≤ ·)
  mode : v.HasWord "booking_mode" ["calendar", "multiple_dates"]
  multipleDates : (v.get "multiple_dates_settings").IsMultipleDates

/-! ## The whole form -/

structure IsCustomField (v : Json) : Prop where
  id : v.HasText "id"
  title : v.HasText "title"
  kind : v.HasWord "type" ["text", "textarea", "radio", "checkbox"]
  options : v.HasList "options" IsChoice
  /-- A question that is answered by choosing has something to choose. -/
  choices : v.HasWord "type" ["radio", "checkbox"] → v.HasFilledList "options" IsChoice

structure IsBasicInfo (v : Json) : Prop where
  formName : v.HasText "form_name"
  themeColor : v.HasColor "theme_color"

structure IsCompleteForm (v : Json) : Prop where
  basicInfo : (v.get "basic_info").IsBasicInfo
  gender : (v.get "gender_selection").IsChoiceBlock
  visitCount : (v.get "visit_count_selection").IsChoiceBlock
  coupon : (v.get "coupon_selection").IsChoiceBlock
  catalogue : (v.get "menu_structure").IsCatalogue
  schedule : (v.get "calendar_settings").IsSchedule
  uiThemeColor : (v.get "ui_settings").HasColor "theme_color"
  customFields : v.HasList "custom_fields" IsCustomField

end Json

/-! ## Records as they are stored -/

theorem Choice.isChoice_toJson {c : Choice} (h : c.WellFormed) : c.toJson.IsChoice where
  value := ⟨c.value, rfl, h.value⟩
  label := ⟨c.label, rfl, h.label⟩

theorem ChoiceBlock.isChoiceBlock_toJson {block : ChoiceBlock} (h : block.WellFormed) :
    block.toJson.IsChoiceBlock where
  options := Json.hasFilledList_map rfl h.nonempty fun c hc =>
    Choice.isChoice_toJson (h.options c hc)

theorem MenuOption.isPriced_toJson {o : MenuOption} (h : o.WellFormed) : o.toJson.IsPriced where
  id := ⟨o.id, rfl, h.id⟩
  price := Json.hasNumber_nat rfl
  duration := Json.hasNumber_nat rfl

theorem SubmenuItem.isPriced_toJson {item : SubmenuItem} (h : item.WellFormed) :
    item.toJson.IsPriced where
  id := ⟨item.id, rfl, h.id⟩
  price := Json.hasNumber_nat rfl
  duration := Json.hasNumber_nat rfl

theorem Menu.isMenu_toJson {menu : Menu} (h : menu.WellFormed) : menu.toJson.IsMenu := by
  cases menu with
  | leaf menu =>
    have h : menu.WellFormed := h
    refine .leaf rfl ⟨⟨menu.id, rfl, h.id⟩, Json.hasNumber_nat rfl, Json.hasNumber_nat rfl⟩ ?_
    exact Json.hasList_map rfl fun o ho => MenuOption.isPriced_toJson (h.options o ho)
  | submenu menu =>
    have h : menu.WellFormed := h
    refine .submenu rfl ⟨menu.id, rfl, h.id⟩ ?_
    exact Json.hasFilledList_map rfl h.nonempty fun item hitem =>
      SubmenuItem.isPriced_toJson (h.items item hitem)

theorem Category.isCategory_toJson {category : Category} (h : category.WellFormed) :
    category.toJson.IsCategory where
  id := ⟨category.id, rfl, h.id⟩
  mode := ⟨category.mode.name, by cases category.mode <;> decide, rfl⟩
  menus := Json.hasList_map rfl fun menu hmenu => Menu.isMenu_toJson (h.menus menu hmenu)

theorem Catalogue.isCatalogue_toJson {catalogue : Catalogue} (h : catalogue.WellFormed) :
    catalogue.toJson.IsCatalogue where
  structureType := ⟨catalogue.structureType, rfl, h.structureType⟩
  categories := Json.hasList_map rfl fun category hcategory =>
    Category.isCategory_toJson (h.categories category hcategory)

/-- Days in the order of their numbers have increasing numbers. -/
theorem pairwise_index_of_sublist {days : List Weekday} (h : days.Sublist Weekday.all) :
    (days.map fun day => (day.index : Int)).Pairwise (· < ·) :=
  (show (Weekday.all.map fun day => (day.index : Int)).Pairwise (· < ·) by decide).sublist
    (h.map _)

theorem Weekday.index_le (day : Weekday) : day.index ≤ 6 := by
  cases day <;> decide

theorem MultipleDates.isMultipleDates_toJson {m : MultipleDates} (h : m.WellFormed) :
    m.toJson.IsMultipleDates where
  step := ⟨m.step.minutes, rfl, by cases m.step <;> decide⟩
  rangeDays := by
    have hpos := h.rangeDays_pos
    have hle : m.rangeDays ≤ 365 := h.rangeDays_le
    exact ⟨m.rangeDays, rfl, by omega, by omega⟩
  excluded := by
    refine ⟨m.excluded.map fun day => (day.index : Int), ?_, pairwise_index_of_sublist h.excluded,
      ?_⟩
    · rw [List.map_map]
      rfl
    · intro n hn
      obtain ⟨day, -, rfl⟩ := List.mem_map.mp hn
      have hle := day.index_le
      omega
  startTime := ⟨m.startTime, rfl, h.startTime⟩
  endTime := ⟨m.endTime, rfl, h.endTime⟩

theorem Schedule.isSchedule_toJson {s : Schedule} (h : s.WellFormed) : s.toJson.IsSchedule where
  hours := by
    refine ⟨_, rfl, ?_⟩
    rw [Assoc.keys, List.map_map]
    show (Weekday.fromMonday.map Weekday.name).Perm _
    decide
  advanceDays := by
    have hpos := h.advanceDays_pos
    exact ⟨s.advanceDays, rfl, by omega⟩
  mode := ⟨s.mode.name, by cases s.mode <;> decide, rfl⟩
  multipleDates := MultipleDates.isMultipleDates_toJson h.multipleDates

/-- The kinds that are answered by choosing are told by their words. -/
theorem FieldKind.hasChoices_of_name {kind : FieldKind} (h : kind.name ∈ ["radio", "checkbox"]) :
    kind.hasChoices = true := by
  cases kind <;> revert h <;> decide

theorem CustomField.isCustomField_toJson {field : CustomField} (h : field.WellFormed) :
    field.toJson.IsCustomField where
  id := ⟨field.id, rfl, h.id⟩
  title := ⟨field.title, rfl, h.title⟩
  kind := ⟨field.kind.name, by cases field.kind <;> decide, rfl⟩
  options := Json.hasList_map rfl fun c hc => Choice.isChoice_toJson (h.options c hc)
  choices := by
    rintro ⟨word, hword, hget⟩
    obtain rfl : field.kind.name = word := Json.str.inj hget
    exact Json.hasFilledList_map rfl (h.nonempty (FieldKind.hasChoices_of_name hword))
      fun c hc => Choice.isChoice_toJson (h.options c hc)

theorem FormConfig.isCompleteForm_toJson {config : FormConfig} (h : config.WellFormed) :
    config.toJson.IsCompleteForm where
  basicInfo := ⟨⟨config.basicInfo.formName, rfl, h.basicInfo.formName⟩,
    Json.hasColor_of_isColor rfl h.basicInfo.themeColor⟩
  gender := ChoiceBlock.isChoiceBlock_toJson h.gender
  visitCount := ChoiceBlock.isChoiceBlock_toJson h.visitCount
  coupon := ChoiceBlock.isChoiceBlock_toJson h.coupon
  catalogue := Catalogue.isCatalogue_toJson h.catalogue
  schedule := Schedule.isSchedule_toJson h.schedule
  uiThemeColor := Json.hasColor_of_isColor rfl h.uiThemeColor
  customFields := Json.hasList_map rfl fun field hfield =>
    CustomField.isCustomField_toJson (h.customFields field hfield)

/-- Whatever a form is made from, its configuration is complete, as a record and as it is
stored. -/
theorem complete_of_normalize {limits : Limits} {source : Source} {config : FormConfig}
    (h : normalize limits source = .ok config) : config.WellFormed ∧ config.toJson.IsCompleteForm :=
  ⟨wellFormed_of_normalize h, FormConfig.isCompleteForm_toJson (wellFormed_of_normalize h)⟩

/-- A record in which hardly anything is what it should be: numbers that are negative, infinite or
none, colors of a wrong length, entries without ids, a submenu without items, questions with nothing
to choose. -/
def malformedRecord : Json :=
  .obj [("config", .obj [
    ("gender_selection", .obj [("options", .arr [.obj [("label", .str "")], .null])]),
    ("menu_structure", .obj [("structure_type", .null), ("categories", .arr [.int 0, .obj [
      ("selection_mode", .str "several"), ("menus", .arr [
        .obj [("has_submenu", .str "yes"), ("sub_menu_items", .arr [.bool true]),
          ("price", .int (-5)), ("duration", .float .notANumber)],
        .obj [("has_submenu", .int 1), ("sub_menu_items", .arr [.obj [
          ("price", .float (.infinite false)), ("duration", .str " 45 ")]])]])]])]),
    ("calendar_settings", .obj [("booking_mode", .int 1), ("business_hours", .arr []),
      ("multiple_dates_settings", .obj [("time_interval", .int 20), ("date_range_days", .int 999),
        ("exclude_weekdays", .arr [.int 6, .str "2", .int 7, .int 6, .null]),
        ("start_time", .str "")])]),
    ("ui_settings", .obj [("theme_color", .str "#12345")]),
    ("custom_fields", .arr [.obj [("type", .str "radio")],
      .obj [("type", .str "checkbox"), ("options", .arr [.obj [("label", .int 3)]])]])])]

theorem complete_malformedRecord :
    ∃ config, normalize .standard (.value malformedRecord) = .ok config ∧
      config.schedule.multipleDates.excluded = [.tuesday, .saturday] ∧
      config.customFields.map CustomField.title = ["field-1"] ∧
      config.WellFormed ∧ config.toJson.IsCompleteForm := by
  have hrecord : normalize .standard (.value malformedRecord) = .ok _ := rfl
  exact ⟨_, hrecord, by decide +kernel, by decide +kernel, complete_of_normalize hrecord⟩

end SalonBooking
