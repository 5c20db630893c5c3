import Mathlib.Data.List.Basic
import SalonBooking.Proofs.Form.WellFormed

/-!
# Reading records back

`toJson` stores a record, `ofJson` reads one.  A well-formed record is read
back as it is: every default, fallback and limit of the reader leaves it alone.

There is one lemma per record, `ofJson_toJson` in the record's namespace, and
each one rests on what `WellFormed` says of its fields.  At the top stands
`FormConfig.ofStored_toJson`: a stored configuration is read back as it is from
any record that adds nothing to it.
-/

namespace SalonBooking

/-! ## Single values -/

namespace Json

theorem natOr_int {n : Nat} (h : Binary64.IsRepresentable n) (fallback : Nat) :
    (Json.int n).natOr fallback = n := by
  rw [natOr, readInt?, Binary64.truncate?_ofInt h]
  rfl

theorem intOr_int {n : Nat} (h : Binary64.IsRepresentable n) (fallback : Int) :
    (Json.int n).intOr fallback = n := by
  rw [intOr, readInt?, Binary64.truncate?_ofInt h]
  rfl

end Json

theorem positiveOr_int {n : Nat} (hpos : 0 < n) (h : Binary64.IsRepresentable n)
    (fallback : Nat) : positiveOr fallback (.int n) = n := by
  rw [positiveOr, Json.natOr_int h]
  exact if_neg (Nat.ne_of_gt hpos)

/-- Hexadecimal digits lie between the ASCII separators and the next-line control. -/
theorem isBlank_of_isHexDigit {c : Char} (h : isHexDigit c = true) : Text.isBlank c = false := by
  obtain ⟨hlow, hhigh⟩ := toNat_of_isHexDigit h
  simp only [Text.isBlank]
  generalize c.toNat = n at hlow hhigh
  simp only [Bool.or_eq_false_iff, Bool.and_eq_false_iff, decide_eq_false_iff_not,
    beq_eq_false_iff_ne]
  omega

/-- A color is read as it is. -/
theorem readColor?_str {s : String} (h : IsColor s) : readColor? (.str s) = some s := by
  obtain ⟨digits, rfl, hlength, hdigits⟩ := h
  have hblank : ∀ c ∈ '#' :: digits, Text.isBlank c = false := by
    intro c hc
    rcases List.mem_cons.mp hc with rfl | hc
    · decide
    · exact isBlank_of_isHexDigit (hdigits c hc)
  have hcontains : [3, 4, 6, 8].contains digits.length = true := by
    rw [List.contains_iff_mem]
    exact hlength
  have hall : digits.all isHexDigit = true := List.all_eq_true.mpr hdigits
  simp only [readColor?, String.toList_ofList, Text.trimBy_of_forall hblank, hcontains, hall,
    Bool.and_self, if_true]

/-! ## Lists -/

section Lists

variable {α : Type} (toJson : α → Json)

theorem filter_isObject_map (hobject : ∀ a, (toJson a).isObject = true) (as : List α) :
    (as.map toJson).filter Json.isObject = as.map toJson := by
  rw [List.filter_eq_self]
  intro v hv
  obtain ⟨a, -, rfl⟩ := List.mem_map.mp hv
  exact hobject a

/-- Stored records are read back one by one. -/
theorem filterMap_map_toJson {read : Json → Option α} {as : List α}
    (hread : ∀ a ∈ as, read (toJson a) = some a) : (as.map toJson).filterMap read = as := by
  rw [List.filterMap_map]
  exact (List.filterMap_congr hread).trans List.filterMap_some

theorem mapIdx_map_toJson {read : Nat → Json → α} {as : List α}
    (hread : ∀ i, ∀ a ∈ as, read i (toJson a) = a) : (as.map toJson).mapIdx read = as := by
  induction as generalizing read with
  | nil => rfl
  | cons a rest ih =>
    rw [List.map_cons, List.mapIdx_cons, hread 0 a List.mem_cons_self,
      ih fun i b hb => hread (i + 1) b (List.mem_cons_of_mem a hb)]

theorem readPositioned_map_toJson {β : Type} (result : α → β) {read : Nat → Json → β}
    (hobject : ∀ a, (toJson a).isObject = true) {as : List α}
    (hread : ∀ i, ∀ a ∈ as, read i (toJson a) = result a) :
    readPositioned read (as.map toJson) = as.map result := by
  induction as generalizing read with
  | nil => rfl
  | cons a rest ih =>
    rw [List.map_cons, readPositioned_cons, hobject a, itemIf_true, hread 0 a List.mem_cons_self,
      ih fun i b hb => hread (i + 1) b (List.mem_cons_of_mem a hb)]
    rfl

end Lists

/-! ## Choices -/

theorem Choice.ofJson?_toJson {c : Choice} (h : c.WellFormed) :
    Choice.ofJson? c.toJson = some c := by
  have hvalue : c.value.isEmpty = false := by simpa using h.value
  show (if c.value.isEmpty && c.label.isEmpty then none
    else some (Choice.mk (orText c.value c.label) (orText c.label c.value))) = some c
  rw [hvalue, Bool.false_and, if_neg Bool.false_ne_true, orText_of_ne h.value,
    orText_of_ne h.label]

/-- The choices of a block are read back; a list without any is replaced as ever. -/
theorem readChoices_toJson {choices : List Choice} (h : ∀ c ∈ choices, c.WellFormed)
    (fallback : List Choice) :
    readChoices fallback (.arr (choices.map Choice.toJson)) =
      if choices.isEmpty then fallback else choices := by
  have hread : (choices.map Choice.toJson).filterMap Choice.ofJson? = choices :=
    filterMap_map_toJson _ fun c hc => Choice.ofJson?_toJson (h c hc)
  simp only [readChoices, Json.items, filter_isObject_map Choice.toJson fun _ => rfl, hread]

theorem ChoiceBlock.ofJson_toJson {block : ChoiceBlock} (h : block.WellFormed)
    (fallback : List Choice) (legacySwitch : Json) :
    ChoiceBlock.ofJson fallback legacySwitch block.toJson = block := by
  have hchoices := readChoices_toJson h.options fallback
  rw [if_neg (by simpa using h.nonempty)] at hchoices
  -- The name of a coupon is stored only where there is one.
  have hcoupon : (block.toJson.get "coupon_name").asText = block.couponName := by
    by_cases hempty : block.couponName = ""
    · rw [ChoiceBlock.toJson, hempty]
      rfl
    · rw [ChoiceBlock.toJson, if_neg (by simpa using hempty)]
      rfl
  show ChoiceBlock.mk block.enabled block.required
    (readChoices fallback (.arr (block.options.map Choice.toJson)))
    (block.toJson.get "coupon_name").asText = block
  rw [hchoices, hcoupon]

/-! ## The catalogue -/

theorem MenuOption.ofJson_toJson {o : MenuOption} (h : o.WellFormed) (position : Nat) :
    MenuOption.ofJson position o.toJson = o := by
  show MenuOption.mk (orText o.id ("option-" ++ toString position)) o.name
    ((Json.int o.price).natOr 0) ((Json.int o.duration).natOr 0) o.isDefault o.description = o
  rw [orText_of_ne h.id, Json.natOr_int h.price, Json.natOr_int h.duration]

theorem SubmenuItem.ofJson_toJson {item : SubmenuItem} (h : item.WellFormed) (position : Nat) :
    SubmenuItem.ofJson position item.toJson = item := by
  show SubmenuItem.mk (orText item.id ("submenu-" ++ toString position)) item.name
    ((Json.int item.price).natOr 0) ((Json.int item.duration).natOr 0) item.description
    item.image = item
  rw [orText_of_ne h.id, Json.natOr_int h.price, Json.natOr_int h.duration]

theorem Menu.isObject_toJson (menu : Menu) : menu.toJson.isObject = true := by
  cases menu <;> rfl

/-- A leaf says that it has no submenu, and a submenu has an item: so both are read back. -/
theorem Menu.ofJson_toJson {menu : Menu} (h : menu.WellFormed) (fallbackId : String) :
    Menu.ofJson fallbackId menu.toJson = menu := by
  cases menu with
  | leaf menu =>
    have h : menu.WellFormed := h
    have hoptions :
        ((menu.options.map MenuOption.toJson).filter Json.isObject).mapIdx MenuOption.ofJson =
          menu.options := by
      rw [filter_isObject_map MenuOption.toJson fun _ => rfl]
      exact mapIdx_map_toJson _ fun i o ho => MenuOption.ofJson_toJson (h.options o ho) i
    show Menu.leaf ⟨orText menu.id fallbackId, menu.name, (Json.int menu.price).natOr 0,
      (Json.int menu.duration).natOr 0,
      ((menu.options.map MenuOption.toJson).filter Json.isObject).mapIdx MenuOption.ofJson,
      menu.description, menu.image⟩ = .leaf menu
    rw [orText_of_ne h.id, Json.natOr_int h.price, Json.natOr_int h.duration, hoptions]
  | submenu menu =>
    have h : menu.WellFormed := h
    have hkept := filter_isObject_map SubmenuItem.toJson (fun _ => rfl) menu.items
    have hitems : (menu.items.map SubmenuItem.toJson).mapIdx SubmenuItem.ofJson = menu.items :=
      mapIdx_map_toJson _ fun i item hitem => SubmenuItem.ofJson_toJson (h.items item hitem) i
    have hsome : (menu.items.map SubmenuItem.toJson).isEmpty = false := by
      simpa using h.nonempty
    have hopens : (((Menu.submenu menu).toJson.get "has_submenu").boolOr false &&
        !(((Menu.submenu menu).toJson.get "sub_menu_items").items.filter
          Json.isObject).isEmpty) = true := by
      show (true && !((menu.items.map SubmenuItem.toJson).filter Json.isObject).isEmpty) = true
      rw [hkept, hsome]
      rfl
    rw [Menu.ofJson]
    simp only [hopens, if_true]
    show Menu.submenu ⟨orText menu.id fallbackId, menu.name,
      ((menu.items.map SubmenuItem.toJson).filter Json.isObject).mapIdx SubmenuItem.ofJson,
      menu.description, menu.image⟩ = .submenu menu
    rw [orText_of_ne h.id, hkept, hitems]

theorem Category.ofJson_toJson {category : Category} (h : category.WellFormed) (position : Nat) :
    Category.ofJson position category.toJson = category := by
  have hid : orText category.id ("category-" ++ toString position) = category.id :=
    orText_of_ne h.id _
  have hmenus : readPositioned
      (fun i => Menu.ofJson
        (orText category.id ("category-" ++ toString position) ++ "-menu-" ++ toString i))
      (category.menus.map Menu.toJson) = category.menus := by
    rw [readPositioned_map_toJson Menu.toJson (fun menu => menu) Menu.isObject_toJson
      fun i menu hmenu => Menu.ofJson_toJson (h.menus menu hmenu) _]
    exact List.map_id' _
  have hmode : (if category.mode.name == "multiple" then SelectionMode.multiple else .single) =
      category.mode := by
    cases category.mode <;> rfl
  show Category.mk (orText category.id ("category-" ++ toString position)) category.name
    (readPositioned
      (fun i => Menu.ofJson
        (orText category.id ("category-" ++ toString position) ++ "-menu-" ++ toString i))
      (category.menus.map Menu.toJson))
    (if category.mode.name == "multiple" then .multiple else .single) = category
  rw [hmenus, hid, hmode]

/-- A catalogue is read back if what stands in for it has no categories where it has none. -/
theorem Catalogue.ofJson_toJson {catalogue : Catalogue} (h : catalogue.WellFormed) {legacy : Json}
    (hlegacy : catalogue.categories = [] → (legacy.get "categories").items = []) :
    Catalogue.ofJson legacy catalogue.toJson = catalogue := by
  have hown : (if (catalogue.categories.map Category.toJson).isEmpty
      then (legacy.get "categories").items else catalogue.categories.map Category.toJson) =
        catalogue.categories.map Category.toJson := by
    by_cases hnone : catalogue.categories = []
    · rw [hlegacy hnone, hnone]
      rfl
    · rw [if_neg (by simpa using hnone)]
  have hread : readPositioned Category.ofJson (catalogue.categories.map Category.toJson) =
      catalogue.categories := by
    rw [readPositioned_map_toJson Category.toJson (fun category => category) (fun _ => rfl)
      fun i category hcategory => Category.ofJson_toJson (h.categories category hcategory) i]
    exact List.map_id' _
  show Catalogue.mk
    (readPositioned Category.ofJson
      (if (catalogue.categories.map Category.toJson).isEmpty
      then (legacy.get "categories").items else catalogue.categories.map Category.toJson))
    catalogue.display (orText catalogue.structureType "category_based") catalogue.crossCategory =
      catalogue
  rw [hown, hread, orText_of_ne h.structureType]

/-! ## The schedule -/

theorem WeekHours.ofJson_toJson (hours : WeekHours) :
    WeekHours.ofJson
      (.obj (Weekday.fromMonday.map fun day => (day.name, (hours.get day).toJson))) = hours := by
  rw [WeekHours.ofJson]
  conv => rhs; rw [← WeekHours.ofFunction_get hours]
  congr 1
  funext day
  cases day <;> rfl

theorem Weekday.ofNumber?_index (day : Weekday) :
    Weekday.ofNumber? ((Json.int day.index).intOr (-1)) = some day := by
  have hsmall : Binary64.IsRepresentable day.index :=
    Binary64.isRepresentable_of_lt (by cases day <;> decide)
  rw [Json.intOr_int hsmall]
  cases day <;> rfl

/-- Filtering a list by the items of a part of it leaves that part. -/
theorem filter_contains_of_sublist {xs ys : List Weekday} (h : List.Sublist xs ys)
    (hnodup : ys.Nodup) : ys.filter (fun y => xs.contains y) = xs := by
  induction h with
  | slnil => rfl
  | @cons xs ys y hsub ih =>
    obtain ⟨hy, hrest⟩ := List.nodup_cons.mp hnodup
    have hout : ¬ xs.contains y = true := by
      rw [List.contains_iff_mem]
      exact fun hin => hy (hsub.subset hin)
    rw [List.filter_cons_of_neg hout, ih hrest]
  | @cons_cons xs ys y hsub ih =>
    obtain ⟨hy, hrest⟩ := List.nodup_cons.mp hnodup
    have hin : (y :: xs).contains y = true := List.contains_iff_mem.mpr List.mem_cons_self
    have hsame : ∀ z ∈ ys, (y :: xs).contains z = xs.contains z := by
      intro z hz
      have hne : z ≠ y := fun he => hy (he ▸ hz)
      rw [List.contains_cons, beq_false_of_ne hne, Bool.false_or]
    rw [List.filter_cons_of_pos hin, List.filter_congr hsame, ih hrest]

theorem TimeStep.ofMinutes?_minutes (step : TimeStep) :
    TimeStep.ofMinutes? ((Json.int step.minutes).natOr 30) = some step := by
  have hsmall : Binary64.IsRepresentable step.minutes :=
    Binary64.isRepresentable_of_lt (by cases step <;> decide)
  rw [Json.natOr_int hsmall]
  cases step <;> rfl

theorem MultipleDates.ofJson_toJson {m : MultipleDates} (h : m.WellFormed) :
    MultipleDates.ofJson m.toJson = m := by
  have hrange : Binary64.IsRepresentable m.rangeDays :=
    Binary64.isRepresentable_of_lt (Nat.lt_of_le_of_lt h.rangeDays_le (by decide))
  have hlisted : ((m.excluded.map fun day => Json.int day.index).filterMap fun w =>
      Weekday.ofNumber? (w.intOr (-1))) = m.excluded :=
    filterMap_map_toJson _ fun day _ => Weekday.ofNumber?_index day
  show MultipleDates.mk
    ((TimeStep.ofMinutes? ((Json.int m.step.minutes).natOr 30)).getD .halfHour)
    (min (positiveOr 30 (.int m.rangeDays)) maxRangeDays)
    (Weekday.all.filter fun day =>
      ((m.excluded.map fun day => Json.int day.index).filterMap fun w =>
        Weekday.ofNumber? (w.intOr (-1))).contains day)
    (orText m.startTime "09:00") (orText m.endTime "18:00") = m
  rw [TimeStep.ofMinutes?_minutes, positiveOr_int h.rangeDays_pos hrange,
    Nat.min_eq_left h.rangeDays_le, hlisted,
    filter_contains_of_sublist h.excluded (by decide), orText_of_ne h.startTime,
    orText_of_ne h.endTime]
  rfl

theorem Schedule.ofJson_toJson {schedule : Schedule} (h : schedule.WellFormed) (rules : Json) :
    Schedule.ofJson rules schedule.toJson = schedule := by
  have hmode :
      (if schedule.mode.name == "multiple_dates" then BookingMode.multipleDates else .calendar) =
        schedule.mode := by
    cases schedule.mode <;> rfl
  show Schedule.mk
    (WeekHours.ofJson
      (.obj (Weekday.fromMonday.map fun day => (day.name, (schedule.hours.get day).toJson))))
    (positiveOr 30 (.int schedule.advanceDays))
    (if schedule.mode.name == "multiple_dates" then .multipleDates else .calendar)
    (MultipleDates.ofJson schedule.multipleDates.toJson) = schedule
  rw [WeekHours.ofJson_toJson, positiveOr_int h.advanceDays_pos h.advanceDays, hmode,
    MultipleDates.ofJson_toJson h.multipleDates]

/-! ## Custom fields -/

theorem CustomField.ofJson?_toJson {field : CustomField} (h : field.WellFormed)
    (position : Nat) : CustomField.ofJson? position field.toJson = some field := by
  have hkind : FieldKind.ofName? field.kind.name = some field.kind := by
    cases field.kind <;> rfl
  have hchoices : readChoices [] (.arr (field.options.map Choice.toJson)) = field.options := by
    rw [readChoices_toJson h.options]
    split
    · rename_i hnone
      exact (List.isEmpty_iff.mp hnone).symm
    · rfl
  have hsome : (field.kind.hasChoices && field.options.isEmpty) = false := by
    rw [Bool.and_eq_false_imp]
    intro hchosen
    simpa using h.nonempty hchosen
  show ((FieldKind.ofName? field.kind.name).bind fun kind =>
    if kind.hasChoices && (readChoices [] (.arr (field.options.map Choice.toJson))).isEmpty
    then none
    else some (CustomField.mk (orText field.id ("field-" ++ toString position))
      (orText field.title (orText field.id ("field-" ++ toString position))) kind field.required
      field.placeholder (readChoices [] (.arr (field.options.map Choice.toJson))))) = some field
  rw [hkind, hchoices, Option.bind_some, hsome, if_neg Bool.false_ne_true, orText_of_ne h.id,
    orText_of_ne h.title]

theorem readCustomFields_toJson {fields : List CustomField} (h : ∀ f ∈ fields, f.WellFormed) :
    readCustomFields (.arr (fields.map CustomField.toJson)) = fields := by
  have hread : readPositioned CustomField.ofJson? (fields.map CustomField.toJson) =
      fields.map some :=
    readPositioned_map_toJson CustomField.toJson some (fun _ => rfl)
      fun i field hfield => CustomField.ofJson?_toJson (h field hfield) i
  rw [readCustomFields, Json.items, hread, List.filterMap_map]
  exact List.filterMap_some

/-! ## The whole form -/

/-- A record that says nothing which its configuration does not say itself. -/
structure AddsNothing (record : Json) (config : FormConfig) : Prop where
  formName : record.get "form_name" = .null
  lineSettings : record.get "line_settings" = .null
  menus : record.get "menu_structure" = .null ∨
    record.get "menu_structure" = config.catalogue.toJson

theorem BasicInfo.ofStored_toJson {config : FormConfig} (h : config.basicInfo.WellFormed)
    {record : Json} (hrecord : AddsNothing record config) (recordUi : Json) :
    BasicInfo.ofStored ⟨config.toJson, record, recordUi⟩ = config.basicInfo := by
  have hcolor : SalonBooking.themeColor [.str config.basicInfo.themeColor] =
      config.basicInfo.themeColor := by
    rw [SalonBooking.themeColor, List.findSome?_cons, readColor?_str h.themeColor]
    rfl
  have hliff : orText config.basicInfo.liffId "" = config.basicInfo.liffId := by
    by_cases hempty : config.basicInfo.liffId = ""
    · rw [hempty]
      rfl
    · exact orText_of_ne hempty ""
  show BasicInfo.mk
    (orText (record.get "form_name").asText (orText config.basicInfo.formName defaultFormName))
    config.basicInfo.storeName (SalonBooking.themeColor [.str config.basicInfo.themeColor])
    (orText config.basicInfo.liffId ((record.get "line_settings").get "liff_id").asText)
    config.basicInfo.logoUrl = config.basicInfo
  rw [hrecord.formName, hrecord.lineSettings, orText_of_ne h.formName, hcolor]
  show BasicInfo.mk config.basicInfo.formName config.basicInfo.storeName
    config.basicInfo.themeColor (orText config.basicInfo.liffId "") config.basicInfo.logoUrl =
      config.basicInfo
  rw [hliff]

theorem UiSettings.ofStored_toJson {config : FormConfig} (h : IsColor config.ui.themeColor)
    (record recordUi : Json) :
    UiSettings.ofStored ⟨config.toJson, record, recordUi⟩ = config.ui := by
  have hcolor (others : List Json) : SalonBooking.themeColor (.str config.ui.themeColor :: others) =
      config.ui.themeColor := by
    rw [SalonBooking.themeColor, List.findSome?_cons, readColor?_str h]
    rfl
  have hstyle : (if config.ui.buttonStyle.name == "square" then ButtonStyle.square else .rounded) =
      config.ui.buttonStyle := by
    cases config.ui.buttonStyle <;> rfl
  show UiSettings.mk
    (SalonBooking.themeColor [.str config.ui.themeColor, .str config.basicInfo.themeColor,
      recordUi.get "theme_color"])
    (if config.ui.buttonStyle.name == "square" then .square else .rounded)
    config.ui.showRepeatBooking config.ui.showSideNav = config.ui
  rw [hcolor, hstyle]

/-- A stored configuration is read back as it is from a record that adds nothing to it. -/
theorem FormConfig.ofStored_toJson {config : FormConfig} (h : config.WellFormed) {record : Json}
    (hrecord : AddsNothing record config) (recordUi : Json) :
    FormConfig.ofStored ⟨config.toJson, record, recordUi⟩ = config := by
  have hmenus : config.catalogue.categories = [] →
      ((record.get "menu_structure").get "categories").items = [] := by
    intro hnone
    rcases hrecord.menus with hrecord | hrecord
    · rw [hrecord]
      rfl
    · rw [hrecord]
      show config.catalogue.categories.map Category.toJson = []
      rw [hnone]
      rfl
  show FormConfig.mk (BasicInfo.ofStored ⟨config.toJson, record, recordUi⟩)
    (.ofJson defaultGenders _ config.gender.toJson)
    (.ofJson defaultVisitCounts _ config.visitCount.toJson)
    (.ofJson defaultCoupons _ config.coupon.toJson)
    (.ofJson (record.get "menu_structure") config.catalogue.toJson)
    (.ofJson (record.get "business_rules") config.schedule.toJson)
    (UiSettings.ofStored ⟨config.toJson, record, recordUi⟩)
    (readCustomFields (.arr (config.customFields.map CustomField.toJson))) = config
  rw [BasicInfo.ofStored_toJson h.basicInfo hrecord, ChoiceBlock.ofJson_toJson h.gender,
    ChoiceBlock.ofJson_toJson h.visitCount, ChoiceBlock.ofJson_toJson h.coupon,
    Catalogue.ofJson_toJson h.catalogue hmenus, Schedule.ofJson_toJson h.schedule,
    UiSettings.ofStored_toJson h.uiThemeColor, readCustomFields_toJson h.customFields]

end SalonBooking
