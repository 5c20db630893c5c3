import SalonBooking.Proofs.Json.Same

/-!
# The order of members in a configuration

A configuration may come back from a store with its members in another order.
No part of a form looks at that order: each reader gives the same record for
values that are the same (`Json.Same`).

One lemma per reader, from single choices up to the whole form, which is
`FormConfig.ofStored_congr`.  Each one only names the members that its reader
asks for.
-/

namespace SalonBooking

variable {v w : Json}

/-! ## Choices -/

theorem Choice.ofJson?_congr (h : v.Same w) : Choice.ofJson? v = Choice.ofJson? w := by
  simp only [Choice.ofJson?, (h.get "value").asText, (h.get "label").textOr]

theorem readChoices_congr (fallback : List Choice) (h : v.Same w) :
    readChoices fallback v = readChoices fallback w := by
  rw [readChoices, readChoices,
    Json.Same.filterMap (fun _ _ => Choice.ofJson?_congr) (Json.Same.filter_isObject h.items)]

theorem ChoiceBlock.ofJson_congr (fallback : List Choice) {legacy legacy' : Json}
    (hlegacy : legacy.Same legacy') (h : v.Same w) :
    ChoiceBlock.ofJson fallback legacy v = ChoiceBlock.ofJson fallback legacy' w := by
  rw [ChoiceBlock.ofJson, ChoiceBlock.ofJson,
    ((h.get "enabled").firstPresent hlegacy).boolOr, (h.get "required").boolOr,
    readChoices_congr fallback (h.get "options"), (h.get "coupon_name").asText]

/-! ## The catalogue -/

theorem MenuOption.ofJson_congr (position : Nat) (h : v.Same w) :
    MenuOption.ofJson position v = MenuOption.ofJson position w := by
  simp only [MenuOption.ofJson, (h.get "id").asText, (h.get "name").asText,
    (h.get "price").natOr, (h.get "duration").natOr, (h.get "is_default").boolOr,
    (h.get "description").asText]

theorem SubmenuItem.ofJson_congr (position : Nat) (h : v.Same w) :
    SubmenuItem.ofJson position v = SubmenuItem.ofJson position w := by
  simp only [SubmenuItem.ofJson, (h.get "id").asText, (h.get "name").asText,
    (h.get "price").natOr, (h.get "duration").natOr, (h.get "description").asText,
    (h.get "image").asText]

theorem Menu.ofJson_congr (fallbackId : String) (h : v.Same w) :
    Menu.ofJson fallbackId v = Menu.ofJson fallbackId w := by
  have hitems := Json.Same.filter_isObject (h.get "sub_menu_items").items
  have hoptions := Json.Same.filter_isObject (h.get "options").items
  simp only [Menu.ofJson, (h.get "id").asText, (h.get "name").asText,
    (h.get "description").asText, (h.get "image").asText, (h.get "has_submenu").boolOr,
    (h.get "price").natOr, (h.get "duration").natOr, Json.Same.isEmpty_eq hitems,
    Json.Same.mapIdx (fun i _ _ => SubmenuItem.ofJson_congr i) hitems,
    Json.Same.mapIdx (fun i _ _ => MenuOption.ofJson_congr i) hoptions]

theorem Category.ofJson_congr (position : Nat) (h : v.Same w) :
    Category.ofJson position v = Category.ofJson position w := by
  simp only [Category.ofJson, (h.get "id").asText, (h.get "name").asText,
    (h.get "selection_mode").asText]
  congr 1
  refine Json.Same.readPositioned (fun i _ _ hmenu => ?_) (h.get "menus").items
  exact Menu.ofJson_congr _ hmenu

theorem DisplayOptions.ofJson_congr (h : v.Same w) :
    DisplayOptions.ofJson v = DisplayOptions.ofJson w := by
  simp only [DisplayOptions.ofJson, (h.get "show_price").boolOr, (h.get "show_duration").boolOr,
    (h.get "show_description").boolOr, (h.get "show_treatment_info").boolOr]

theorem Catalogue.ofJson_congr {legacy legacy' : Json} (hlegacy : legacy.Same legacy')
    (h : v.Same w) : Catalogue.ofJson legacy v = Catalogue.ofJson legacy' w := by
  have hown := (h.get "categories").items
  have hread (vs ws : List Json) (hvs : List.Forall₂ Json.Same vs ws) :
      readPositioned Category.ofJson vs = readPositioned Category.ofJson ws :=
    Json.Same.readPositioned (fun i _ _ => Category.ofJson_congr i) hvs
  have hcategories : readPositioned Category.ofJson (storedCategories legacy v) =
      readPositioned Category.ofJson (storedCategories legacy' w) := by
    simp only [storedCategories, Json.Same.isEmpty_eq hown]
    split
    · exact hread _ _ (hlegacy.get "categories").items
    · exact hread _ _ hown
  simp only [Catalogue.ofJson, hcategories, DisplayOptions.ofJson_congr (h.get "display_options"),
    (h.get "structure_type").asText,
    ((h.get "allow_cross_category_selection").firstPresent
      (hlegacy.get "allow_cross_category_selection")).boolOr]

/-! ## The schedule -/

theorem DayHours.ofJson_congr (fallback : DayHours) (h : v.Same w) :
    DayHours.ofJson fallback v = DayHours.ofJson fallback w := by
  simp only [DayHours.ofJson, h.isObject, (h.get "open").textOr, (h.get "close").textOr,
    (h.get "closed").boolOr]

theorem WeekHours.ofJson_congr (h : v.Same w) : WeekHours.ofJson v = WeekHours.ofJson w := by
  rw [WeekHours.ofJson, WeekHours.ofJson]
  congr 1
  funext day
  exact DayHours.ofJson_congr _ (h.get day.name)

theorem positiveOr_congr (fallback : Nat) (h : v.Same w) :
    positiveOr fallback v = positiveOr fallback w := by
  rw [positiveOr, positiveOr, h.natOr]

theorem MultipleDates.ofJson_congr (h : v.Same w) :
    MultipleDates.ofJson v = MultipleDates.ofJson w := by
  have hlisted :
      ((v.get "exclude_weekdays").items.filterMap fun u => Weekday.ofNumber? (u.intOr (-1))) =
        (w.get "exclude_weekdays").items.filterMap fun u => Weekday.ofNumber? (u.intOr (-1)) :=
    Json.Same.filterMap (fun _ _ hu => by rw [hu.intOr]) (h.get "exclude_weekdays").items
  simp only [MultipleDates.ofJson, (h.get "time_interval").natOr,
    positiveOr_congr 30 (h.get "date_range_days"), hlisted, h.hasMember,
    (h.get "start_time").textOr, (h.get "end_time").textOr]

theorem Schedule.ofJson_congr {rules rules' : Json} (hrules : rules.Same rules')
    (h : v.Same w) : Schedule.ofJson rules v = Schedule.ofJson rules' w := by
  simp only [Schedule.ofJson, storedHours,
    WeekHours.ofJson_congr ((h.get "business_hours").orElse (hrules.get "business_hours")),
    positiveOr_congr 30
      ((h.get "advance_booking_days").firstPresent (hrules.get "advance_booking_days")),
    (h.get "booking_mode").asText,
    MultipleDates.ofJson_congr (h.get "multiple_dates_settings")]

/-! ## Custom fields -/

theorem CustomField.ofJson?_congr (position : Nat) (h : v.Same w) :
    CustomField.ofJson? position v = CustomField.ofJson? position w := by
  simp only [CustomField.ofJson?, (h.get "type").asText, readChoices_congr [] (h.get "options"),
    (h.get "id").asText, (h.get "title").asText, (h.get "required").boolOr,
    (h.get "placeholder").asText]

theorem readCustomFields_congr (h : v.Same w) : readCustomFields v = readCustomFields w := by
  rw [readCustomFields, readCustomFields,
    Json.Same.readPositioned (fun i _ _ => CustomField.ofJson?_congr i) h.items]

/-! ## The whole form -/

theorem readColor?_congr (h : v.Same w) : readColor? v = readColor? w := by
  cases h <;> rfl

theorem themeColor_congr {vs ws : List Json} (h : List.Forall₂ Json.Same vs ws) :
    themeColor vs = themeColor ws := by
  rw [themeColor, themeColor]
  congr 1
  induction h with
  | nil => rfl
  | cons hvw _ ih => rw [List.findSome?_cons, List.findSome?_cons, readColor?_congr hvw, ih]

/-- Two stored forms are the same up to the order of members. -/
structure StoredForm.Same (form form' : StoredForm) : Prop where
  config : form.config.Same form'.config
  record : form.record.Same form'.record
  recordUi : form.recordUi.Same form'.recordUi

theorem BasicInfo.ofStored_congr {form form' : StoredForm} (h : form.Same form') :
    BasicInfo.ofStored form = BasicInfo.ofStored form' := by
  have hbasic := h.config.get "basic_info"
  simp only [BasicInfo.ofStored, (h.record.get "form_name").asText,
    (hbasic.get "form_name").asText, (hbasic.get "store_name").asText,
    themeColor_congr (.cons (hbasic.get "theme_color") .nil), (hbasic.get "liff_id").asText,
    ((h.record.get "line_settings").get "liff_id").asText, (hbasic.get "logo_url").asText]

theorem UiSettings.ofStored_congr {form form' : StoredForm} (h : form.Same form') :
    UiSettings.ofStored form = UiSettings.ofStored form' := by
  have hui := h.config.get "ui_settings"
  have hbasic := h.config.get "basic_info"
  have hsetting (key : String) := (hui.get key).firstPresent (h.recordUi.get key)
  have hcolors := themeColor_congr (.cons (hui.get "theme_color")
    (.cons (hbasic.get "theme_color") (.cons (h.recordUi.get "theme_color") .nil)))
  simp only [UiSettings.ofStored, hcolors, (hui.get "button_style").asText,
    (hsetting "show_repeat_booking").boolOr, (hsetting "show_side_nav").boolOr]

theorem FormConfig.ofStored_congr {form form' : StoredForm} (h : form.Same form') :
    FormConfig.ofStored form = FormConfig.ofStored form' := by
  have hui := h.config.get "ui_settings"
  have hsetting (key : String) := (hui.get key).firstPresent (h.recordUi.get key)
  simp only [FormConfig.ofStored, BasicInfo.ofStored_congr h,
    ChoiceBlock.ofJson_congr defaultGenders
      ((h.config.get "basic_info").get "show_gender_selection") (h.config.get "gender_selection"),
    ChoiceBlock.ofJson_congr defaultVisitCounts (hsetting "show_visit_count")
      (h.config.get "visit_count_selection"),
    ChoiceBlock.ofJson_congr defaultCoupons (hsetting "show_coupon_selection")
      (h.config.get "coupon_selection"),
    Catalogue.ofJson_congr (h.record.get "menu_structure") (h.config.get "menu_structure"),
    Schedule.ofJson_congr (h.record.get "business_rules") (h.config.get "calendar_settings"),
    UiSettings.ofStored_congr h, readCustomFields_congr (h.config.get "custom_fields")]

end SalonBooking
