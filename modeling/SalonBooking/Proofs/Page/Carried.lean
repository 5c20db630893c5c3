import SalonBooking.Proofs.Page.Constants

/-!
# Settings that the markup does not show

Some settings of a form are carried along for the script, for the editor and for
later bookings, but nothing in the markup of the page depends on them.
`FormConfig.inMarkup` puts something fixed in their place: two configurations
differ only in such settings if that makes them equal.

No block of the page looks at one of them (`container_inMarkup`), and what
follows the script is the same on every page; so the pages of the two
configurations differ in their last script only.

* `withoutLastScript?`: the text of a page without its last script.
* `markup_ignores_carried`: what is left of the two pages is the same.
-/

namespace SalonBooking

/-! ## What the markup can show -/

/-- An item of a submenu without what only the script looks at: no image is shown for it. -/
def SubmenuItem.inMarkup (item : SubmenuItem) : SubmenuItem :=
  { item with image := "" }

/-- A menu without what only the script looks at. -/
def Menu.inMarkup : Menu → Menu
  | .leaf m => .leaf m
  | .submenu m => .submenu { m with items := m.items.map SubmenuItem.inMarkup }

/-- A category without what only the script looks at. -/
def Category.inMarkup (category : Category) : Category :=
  { category with menus := category.menus.map Menu.inMarkup, mode := .single }

/-- A catalogue without what only the script and the editor look at. -/
def Catalogue.inMarkup (catalogue : Catalogue) : Catalogue where
  categories := catalogue.categories.map Category.inMarkup
  display := { catalogue.display with treatmentInfo := false }
  structureType := ""
  crossCategory := false

/-- A choice block that is switched off, whatever it would ask; one that is on as it is. -/
def ChoiceBlock.inMarkup (block : ChoiceBlock) : ChoiceBlock :=
  if block.enabled then block else ⟨false, false, [], ""⟩

/-- What multiple-dates mode offers, without the days; in the other mode nothing of it. -/
def MultipleDates.inMarkup (mode : BookingMode) (dates : MultipleDates) : MultipleDates :=
  match mode with
  | .calendar => ⟨.hour, 0, [], "", ""⟩
  | .multipleDates => { dates with rangeDays := 0, excluded := [] }

/-- A schedule without the business hours and the days, which only the script looks at. -/
def Schedule.inMarkup (schedule : Schedule) : Schedule where
  hours := .ofFunction fun _ => ⟨"", "", true⟩
  advanceDays := 0
  mode := schedule.mode
  multipleDates := schedule.multipleDates.inMarkup schedule.mode

/-- A configuration with something fixed in place of all that is only carried along. -/
def FormConfig.inMarkup (config : FormConfig) : FormConfig where
  basicInfo := { config.basicInfo with liffId := "" }
  gender := config.gender.inMarkup
  visitCount := config.visitCount.inMarkup
  coupon := config.coupon.inMarkup
  catalogue := config.catalogue.inMarkup
  schedule := config.schedule.inMarkup
  ui := { config.ui with themeColor := "", showSideNav := false }
  customFields := config.customFields

namespace Page

/-! ## The blocks -/

theorem itemButton_inMarkup (display : DisplayOptions) (menuId : String) (item : SubmenuItem) :
    itemButton display menuId item.inMarkup = itemButton display menuId item := rfl

theorem menuEntry_inMarkup (display : DisplayOptions) (categoryId : String) (menu : Menu) :
    menuEntry display categoryId menu.inMarkup = menuEntry display categoryId menu := by
  cases menu with
  | leaf m => rfl
  | submenu m =>
    have hpanel : submenuPanel display { m with items := m.items.map SubmenuItem.inMarkup } =
        submenuPanel display m := by
      simp only [submenuPanel, List.map_map, Function.comp_def, itemButton_inMarkup]
    simp only [Menu.inMarkup, menuEntry, menuPanel, hpanel]
    rfl

theorem categoryBlock_inMarkup (display : DisplayOptions) (category : Category) :
    categoryBlock display category.inMarkup = categoryBlock display category := by
  simp only [categoryBlock, Category.inMarkup, List.map_map, Function.comp_def,
    menuEntry_inMarkup]

theorem menuField_inMarkup (catalogue : Catalogue) :
    menuField catalogue.inMarkup = menuField catalogue := by
  have hblocks : catalogue.inMarkup.categories.map (categoryBlock catalogue.inMarkup.display) =
      catalogue.categories.map (categoryBlock catalogue.display) := by
    rw [Catalogue.inMarkup, List.map_map]
    -- The blocks do not look at the fourth display option.
    exact List.map_congr_left fun category _ => categoryBlock_inMarkup catalogue.display category
  have hempty : catalogue.inMarkup.categories.isEmpty = catalogue.categories.isEmpty := by
    rw [Catalogue.inMarkup, List.isEmpty_map]
  rw [menuField, hblocks, hempty, menuField]

/-- A choice block only shows something if it is on, and then nothing of it was replaced. -/
theorem itemIf_inMarkup (block : ChoiceBlock) (shown : ChoiceBlock → Node) :
    itemIf block.inMarkup.enabled (shown block.inMarkup) = itemIf block.enabled (shown block) := by
  cases h : block.enabled with
  | true => simp only [ChoiceBlock.inMarkup, h, if_true]
  | false => simp [ChoiceBlock.inMarkup, h]

theorem choiceFields_inMarkup (config : FormConfig) :
    choiceFields config.inMarkup = choiceFields config := by
  have hgender := itemIf_inMarkup config.gender (choiceField "gender-field" "性別" "gender")
  have hvisits := itemIf_inMarkup config.visitCount
    (choiceField "visit-count-field" "ご来店回数" "visitCount")
  have hcoupon := itemIf_inMarkup config.coupon fun block =>
    choiceField "coupon-field" (couponTitle block) "coupon" block
  simp only [choiceFields, FormConfig.inMarkup, hgender, hvisits, hcoupon]

theorem dateFields_inMarkup (config : FormConfig) :
    dateFields config.inMarkup = dateFields config := by
  cases h : config.schedule.mode <;>
    simp [dateFields, FormConfig.isMultipleDates, FormConfig.inMarkup, Schedule.inMarkup,
      MultipleDates.inMarkup, Schedule.pickerTimes, h]

theorem container_inMarkup (config : FormConfig) :
    container config.inMarkup = container config := by
  have hmenus : menuField config.inMarkup.catalogue = menuField config.catalogue :=
    menuField_inMarkup config.catalogue
  simp only [container, fields, choiceFields_inMarkup, dateFields_inMarkup, hmenus]
  rfl

theorem head_inMarkup (config : FormConfig) : head config.inMarkup = head config := rfl

/-! ## The page around its script -/

/-- The characters of a page without the element that the last `<script>` opens, if it is closed. -/
def withoutLastScript? (page : String) : Option (List Char) :=
  match Text.afterLast? "<script>".toList page.toList with
  | none => none
  | some after =>
    match Text.splitAtFirst "</script>".toList after with
    | (_, []) => none
    | (_, closing) =>
      some (page.toList.take (page.toList.length - ("<script>".toList ++ after).length) ++
        closing.drop "</script>".toList.length)

/-- What is left of a page is the text of its head and of its form, and the end. -/
theorem exists_withoutLastScript? {config : FormConfig} (h : config.WellFormed) (limits : Limits)
    (formId storeId : String) : ∃ page front form, config.page limits formId storeId = .ok page ∧
      (head config).render limits = .ok front ∧ (container config).render limits = .ok form ∧
      withoutLastScript? page = some
        (("<!DOCTYPE html>\n" ++ beforeScript front form).toList ++ "</body></html>\n".toList) := by
  obtain ⟨index, html, -, hhtml, hpage⟩ := exists_page h limits formId storeId
  obtain ⟨front, form, hfront, hform, hchars⟩ := exists_toList_page hhtml
  have hangles := angles_controllerScript h formId storeId index
  refine ⟨_, front, form, hpage, hfront, hform, ?_⟩
  generalize controllerScript config (.str formId) (.str storeId) index = script at hangles hchars
  generalize "<!DOCTYPE html>\n" ++ html ++ "\n" = page at hchars ⊢
  generalize "<!DOCTYPE html>\n" ++ beforeScript front form = before at hchars ⊢
  -- The script and its two tags are as long as what the last `<script>` starts.
  have htaken : page.toList.take (page.toList.length - ("<script>".toList ++ (script.toList ++
      ("</script>".toList ++ "</body></html>\n".toList))).length) = before.toList := by
    rw [hchars, List.length_append, Nat.add_sub_cancel]
    exact List.take_left
  rw [withoutLastScript?, afterLast?_script hangles hchars]
  simp only [splitAtFirst_script hangles, htaken]
  rfl

end Page

/-! ## Carried settings -/

/-- Pages of configurations that differ in carried settings only differ in their last script
only, whatever their ids are. -/
theorem markup_ignores_carried {limits : Limits} {source source' : Source}
    {config config' : FormConfig} (h : normalize limits source = .ok config)
    (h' : normalize limits source' = .ok config')
    (hmarkup : config.inMarkup = config'.inMarkup) (formId storeId formId' storeId' : String) :
    ∃ page page' rest, config.page limits formId storeId = .ok page ∧
      config'.page limits formId' storeId' = .ok page' ∧
      Page.withoutLastScript? page = some rest ∧ Page.withoutLastScript? page' = some rest := by
  obtain ⟨page, front, form, hpage, hfront, hform, hrest⟩ :=
    Page.exists_withoutLastScript? (wellFormed_of_normalize h) limits formId storeId
  obtain ⟨page', front', form', hpage', hfront', hform', hrest'⟩ :=
    Page.exists_withoutLastScript? (wellFormed_of_normalize h') limits formId' storeId'
  have hheads : Page.head config = Page.head config' := by
    rw [← Page.head_inMarkup config, hmarkup, Page.head_inMarkup]
  have hforms : Page.container config = Page.container config' := by
    rw [← Page.container_inMarkup config, hmarkup, Page.container_inMarkup]
  rw [← hheads, hfront] at hfront'
  rw [← hforms, hform] at hform'
  obtain rfl := Except.ok.inj hfront'
  obtain rfl := Except.ok.inj hform'
  exact ⟨page, page', _, hpage, hpage', hrest, hrest'⟩

/-- A calendar form with a submenu and a coupon that is switched off. -/
def dressedForm (liffId image mode : String) (crossing : Bool) (days : Int) : Json :=
  .obj [("basic_info", .obj [("form_name", .str "<script>"), ("liff_id", .str liffId)]),
    ("ui_settings", .obj [("theme_color", .str "#abc"), ("show_side_nav", .bool crossing)]),
    ("coupon_selection", .obj [("enabled", .bool false), ("required", .bool crossing),
      ("coupon_name", .str liffId)]),
    ("menu_structure", .obj [("structure_type", .str mode),
      ("allow_cross_category_selection", .bool crossing),
      ("display_options", .obj [("show_treatment_info", .bool crossing)]),
      ("categories", .arr [.obj [("selection_mode", .str mode), ("menus", .arr [
        .obj [("name", .str "</script>"), ("has_submenu", .bool true),
          ("sub_menu_items", .arr [.obj [("image", .str image)]])]])]])]),
    ("calendar_settings", .obj [("advance_booking_days", .int days),
      ("business_hours", .obj [("monday", .obj [("closed", .bool crossing)])]),
      ("multiple_dates_settings", .obj [("start_time", .str mode), ("date_range_days", .int days),
        ("exclude_weekdays", .arr [.int days])])])]

/-- The messaging id, the image, how menus are combined and the days may all differ. -/
theorem markup_ignores_carried_dressed :
    ∃ config config',
      normalize .standard (.value (dressedForm "" "" "single" false 1)) = .ok config ∧
      normalize .standard (.value (dressedForm "1-x" "a.png" "multiple" true 2)) = .ok config' ∧
      config ≠ config' ∧ config.inMarkup = config'.inMarkup ∧
      ∃ page page' rest, config.page .standard "f" "s" = .ok page ∧
        config'.page .standard "</script>" "" = .ok page' ∧
        Page.withoutLastScript? page = some rest ∧ Page.withoutLastScript? page' = some rest := by
  have hform : normalize .standard (.value (dressedForm "" "" "single" false 1)) = .ok _ := rfl
  have hform' :
      normalize .standard (.value (dressedForm "1-x" "a.png" "multiple" true 2)) = .ok _ := rfl
  refine ⟨_, _, hform, hform', by decide +kernel, ?hmarkup,
    markup_ignores_carried hform hform' ?hmarkup "f" "s" "</script>" ""⟩
  decide +kernel

end SalonBooking
