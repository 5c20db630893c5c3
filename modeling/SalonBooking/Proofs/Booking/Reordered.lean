import SalonBooking.Proofs.Booking.Delivered
import SalonBooking.Proofs.Booking.Totals

/-!
# The order of choosing

A selection keeps menus and options in the order in which they were chosen.  The
line of the menus shows this order, and nothing else depends on it: totals are
sums, and the phase asks for all picks and for any.

What a date has to do with the order is another matter.  A click on a menu
clears the date, so the same clicks in another order may end without one.

* `pick?_alike`: each menu is picked alike, whatever was chosen before it.
* `totals_eq`, `phase_eq`, `segment?_alike`: what is made of the picks.
* `missing_eq_iff`: what the check says differs in the date only.
* `clearMenus_clicks`: clicks change menus and dates, and nothing else.
* `choosing_order_irrelevant`: two selections in which the same is chosen, and two
  runs of clicks that end with the same choice.
-/

namespace SalonBooking

/-- The same menus, items and options are chosen, in whatever order. -/
structure Selection.ChoosesSame (sel sel' : Selection) : Prop where
  menus : sel.menuIds.Perm sel'.menuIds
  items : ∀ id, sel.submenuIds.get? id = sel'.submenuIds.get? id
  options : ∀ id, (sel.optionsOf id).Perm (sel'.optionsOf id)

/-- The check finds the same in two selections, apart from menus and dates. -/
structure Selection.HasSameDetails (sel sel' : Selection) : Prop where
  name : sel.name = sel'.name
  phone : sel.phone = sel'.phone
  gender : sel.gender = sel'.gender
  visitCount : sel.visitCount = sel'.visitCount
  answers : ∀ id, sel.customFields.get? id = sel'.customFields.get? id

/-- A part of the line of the menus: the names of category, menu and item, and those of the
options. -/
structure Segment where
  path : String
  optionNames : List String

/-- What stands in the line. -/
def Segment.text (s : Segment) : String := joinNonEmpty ", " (s.path :: s.optionNames)

/-- Two parts differ in the order of the options only. -/
structure Segment.Alike (s s' : Segment) : Prop where
  path : s.path = s'.path
  optionNames : s.optionNames.Perm s'.optionNames

namespace Pick

/-- Two picks differ in the order of the options only. -/
inductive Alike : Pick → Pick → Prop where
  | leaf {category : Category} {menu : LeafMenu} {options options' : List MenuOption}
      (h : options.Perm options') :
      Alike ⟨category, .leaf menu options⟩ ⟨category, .leaf menu options'⟩
  | submenu (category : Category) (menu : SubmenuMenu) (item : Option SubmenuItem) :
      Alike ⟨category, .submenu menu item⟩ ⟨category, .submenu menu item⟩

/-- What a pick says in the line of the menus. -/
def segment (p : Pick) : Segment :=
  ⟨joinNonEmpty " > " [p.category.name, p.menu.name, (p.item?.map (·.name)).getD ""],
    p.options.map (·.name)⟩

namespace Alike

variable {p p' : Pick}

theorem totals (h : p.Alike p') : p.totals = p'.totals := by
  cases h with
  | leaf h => exact congrArg (_ + ·) (h.map _).sum_eq
  | submenu => rfl

theorem isResolved (h : p.Alike p') : p.isResolved = p'.isResolved := by
  cases h <;> rfl

theorem item? (h : p.Alike p') : p.item? = p'.item? := by
  cases h <;> rfl

theorem segment (h : p.Alike p') : p.segment.Alike p'.segment := by
  cases h with
  | leaf h => exact ⟨rfl, h.map _⟩
  | submenu => exact ⟨rfl, .refl _⟩

theorem isNamed_iff (h : p.Alike p') : p.IsNamed ↔ p'.IsNamed := by
  cases h with
  | leaf h => exact exists_congr fun _ => and_congr_left' ((h.map _).append_left _).mem_iff
  | submenu => rfl

end Alike

theorem map_eq_of_alike {α : Type} {f : Pick → α} (hf : ∀ {p p' : Pick}, p.Alike p' → f p = f p')
    {picked picked' : Option Pick} (h : Option.Rel Alike picked picked') :
    picked.map f = picked'.map f := by
  cases h with
  | none => rfl
  | some h => exact congrArg some (hf h)

end Pick

/-- The phase comes from what every pick says of itself, and not from their order. -/
theorem Phase.ofPicks_eq {picks picks' : List Pick}
    (h : (picks.map fun p => (p.isResolved, p.item?.isSome)).Perm
      (picks'.map fun p => (p.isResolved, p.item?.isSome))) :
    Phase.ofPicks picks = Phase.ofPicks picks' := by
  have hempty : picks.isEmpty = picks'.isEmpty := by
    simpa only [List.isEmpty_map] using h.isEmpty_eq
  have hall : picks.all Pick.isResolved = picks'.all Pick.isResolved := by
    simpa only [List.all_map, Function.comp_def] using h.all_eq (f := Prod.fst)
  have hany : (picks.any fun p => p.item?.isSome) = picks'.any fun p => p.item?.isSome := by
    simpa only [List.any_map, Function.comp_def] using h.any_eq (f := Prod.snd)
  rw [ofPicks, ofPicks, hempty, hall, hany]

namespace Catalogue

variable {catalogue : Catalogue} {sel sel' : Selection}

/-- What a menu says in the line of the menus, unless it has nothing to say. -/
def segment? (catalogue : Catalogue) (sel : Selection) (menuId : String) : Option Segment :=
  ((catalogue.pick? sel menuId).filter fun p => p.IsNamed).map Pick.segment

theorem menuLine_eq_segments (catalogue : Catalogue) (sel : Selection) :
    catalogue.menuLine sel =
      " / ".intercalate ((sel.menuIds.filterMap (catalogue.segment? sel)).map Segment.text) := by
  have hsegments : sel.menuIds.filterMap (catalogue.segment? sel) =
      ((catalogue.picks sel).filter fun p => p.IsNamed).map Pick.segment := by
    rw [picks, List.filter_filterMap, List.map_filterMap]
    rfl
  have htext : Segment.text ∘ Pick.segment = Pick.line := rfl
  rw [menuLine_eq, hsegments, List.map_map, htext]

/-! ## Picks -/

/-- Each menu is picked alike. -/
theorem pick?_alike (h : sel.ChoosesSame sel') (menuId : String) :
    Option.Rel Pick.Alike (catalogue.pick? sel menuId) (catalogue.pick? sel' menuId) := by
  rw [pick?, pick?]
  cases catalogue.findMenu? menuId with
  | none => exact .none
  | some found =>
    obtain ⟨category, menu⟩ := found
    refine .some ?_
    cases menu with
    | leaf menu => exact .leaf ((h.options menu.id).filterMap _)
    | submenu menu =>
      simp only [pickOf, h.items menu.id]
      exact .submenu ..

/-- What is made of each pick is the same up to the order of the menus, if the order of the options
does not count. -/
theorem map_picks_perm {α : Type} {f : Pick → α} (hf : ∀ {p p' : Pick}, p.Alike p' → f p = f p')
    (h : sel.ChoosesSame sel') :
    ((catalogue.picks sel).map f).Perm ((catalogue.picks sel').map f) := by
  have hpick : (fun id => (catalogue.pick? sel id).map f) =
      fun id => (catalogue.pick? sel' id).map f := by
    funext id
    exact Pick.map_eq_of_alike hf (pick?_alike h id)
  rw [picks, picks, List.map_filterMap, List.map_filterMap, hpick]
  exact h.menus.filterMap _

theorem totals_eq (h : sel.ChoosesSame sel') : catalogue.totals sel = catalogue.totals sel' :=
  (map_picks_perm Pick.Alike.totals h).sum_eq

theorem phase_eq (h : sel.ChoosesSame sel') : catalogue.phase sel = catalogue.phase sel' :=
  Phase.ofPicks_eq (map_picks_perm (fun halike => by rw [halike.isResolved, halike.item?]) h)

/-- Each menu says the same, with its options in another order. -/
theorem segment?_alike (h : sel.ChoosesSame sel') (menuId : String) :
    Option.Rel Segment.Alike (catalogue.segment? sel menuId) (catalogue.segment? sel' menuId) := by
  have halike : Option.Rel Pick.Alike (catalogue.pick? sel menuId) (catalogue.pick? sel' menuId) :=
    pick?_alike h menuId
  rw [segment?, segment?]
  generalize catalogue.pick? sel menuId = picked at halike ⊢
  generalize catalogue.pick? sel' menuId = picked' at halike ⊢
  cases halike with
  | none => exact .none
  | @some p p' halike =>
    by_cases hnamed : p.IsNamed
    · rw [Option.filter_some_pos (by simpa using hnamed),
        Option.filter_some_pos (by simpa using halike.isNamed_iff.mp hnamed)]
      exact .some halike.segment
    · have hnamed' : ¬ p'.IsNamed := fun h => hnamed (halike.isNamed_iff.mpr h)
      rw [Option.filter_some_neg (by simpa using hnamed),
        Option.filter_some_neg (by simpa using hnamed')]
      exact .none

end Catalogue

/-! ## The check -/

theorem itemIf_inj {α : Type} {condition condition' : Bool} {a : α} :
    itemIf condition a = itemIf condition' a ↔ condition = condition' := by
  cases condition <;> cases condition' <;> simp

/-- Of two selections in which the same is chosen and entered, the check says the same if both or
neither have a date and a time. -/
theorem FormConfig.missing_eq_iff {config : FormConfig} {sel sel' : Selection}
    (h : sel.ChoosesSame sel') (hdetails : sel.HasSameDetails sel') :
    config.missing sel = config.missing sel' ↔
      sel.desired.isComplete = sel'.desired.isComplete := by
  have hlacks (field : CustomField) : field.lacks sel = field.lacks sel' := by
    rw [CustomField.lacks, CustomField.lacks, Selection.answer, Selection.answer,
      hdetails.answers field.id]
  rw [missing, missing, hdetails.name, hdetails.phone, hdetails.gender, hdetails.visitCount,
    Catalogue.phase_eq h, funext hlacks]
  -- All that is left to differ is the part about the date, with the same parts around it.
  rw [List.append_left_inj, List.append_right_inj, itemIf_inj, Bool.not_inj_iff]

/-! ## Runs of clicks -/

namespace Catalogue

variable {catalogue : Catalogue} {sel : Selection}

theorem clearMenus_foldl_dropMenu (ids : List String) (sel : Selection) :
    (ids.foldl Selection.dropMenu sel).clearMenus = sel.clearMenus := by
  induction ids generalizing sel with
  | nil => rfl
  | cons id rest ih => exact ih (sel.dropMenu id)

theorem clearMenus_toggleMenu (category : Category) (menuId : String) (sel : Selection) :
    (catalogue.toggleMenu category menuId sel).clearMenus = sel.clearMenus := by
  rw [toggleMenu]
  split
  · split <;> rfl
  · split
    · rfl
    · split
      · rfl
      · exact clearMenus_foldl_dropMenu _ sel

/-- A click changes menus and dates, and nothing else. -/
theorem clearMenus_click (sel : Selection) (c : Click) :
    (catalogue.click sel c).2.clearDates.clearMenus = sel.clearDates.clearMenus := by
  cases c with
  | menu id =>
    show (catalogue.selectMenu id sel).clearMenus.clearDates = _
    rw [selectMenu]
    split
    · rw [clearMenus_toggleMenu]
      rfl
    · rfl
  | submenuItem id menuId =>
    show (catalogue.selectItem id menuId sel).clearDates.clearMenus = _
    rw [selectItem]
    split <;> rfl
  | option id menuId =>
    show (catalogue.toggleOption id menuId sel).2.clearDates.clearMenus = _
    rw [toggleOption]
    split <;> rfl
  | dateTime date time =>
    show (catalogue.selectDateTime date time sel).2.clearDates.clearMenus = _
    rw [selectDateTime]
    split <;> rfl

theorem clearMenus_clicks (sel : Selection) (cs : List Click) :
    (catalogue.clicks sel cs).clearDates.clearMenus = sel.clearDates.clearMenus := by
  induction cs generalizing sel with
  | nil => rfl
  | cons c rest ih => exact (ih _).trans (clearMenus_click sel c)

/-- Without a click on a slot there is no date. -/
theorem desired_click {c : Click} (hc : ∀ date time, c ≠ .dateTime date time)
    (h : sel.desired = .empty) : (catalogue.click sel c).2.desired = .empty := by
  cases c with
  | menu id =>
    show (catalogue.selectMenu id sel).clearMenus.desired = _
    rw [selectMenu]
    split
    · rw [clearMenus_toggleMenu]
      rfl
    · exact h
  | submenuItem id menuId =>
    show (catalogue.selectItem id menuId sel).desired = _
    rw [selectItem]
    split <;> exact h
  | option id menuId =>
    show (catalogue.toggleOption id menuId sel).2.desired = _
    rw [toggleOption]
    split <;> exact h
  | dateTime date time => exact absurd rfl (hc date time)

theorem desired_clicks {cs : List Click} (hcs : ∀ c ∈ cs, ∀ date time, c ≠ .dateTime date time)
    (h : sel.desired = .empty) : (catalogue.clicks sel cs).desired = .empty := by
  induction cs generalizing sel with
  | nil => exact h
  | cons c rest ih =>
    exact ih (fun c hc => hcs c (List.mem_cons_of_mem _ hc))
      (desired_click (hcs c List.mem_cons_self) h)

end Catalogue

/-- Two selections that differ in menus and dates only. -/
theorem Selection.HasSameDetails.of_eq {sel sel' : Selection}
    (h : sel.clearDates.clearMenus = sel'.clearDates.clearMenus) : sel.HasSameDetails sel' := by
  simp only [clearMenus, clearDates, Selection.mk.injEq] at h
  obtain ⟨hname, hphone, hgender, hvisitCount, -, hfields, -⟩ := h
  exact ⟨hname, hphone, hgender, hvisitCount, fun id => by rw [hfields]⟩

/-- A consistent selection has no repetitions, so that sets tell what is chosen. -/
theorem Selection.Consistent.choosesSame {catalogue : Catalogue} {sel sel' : Selection}
    (hsel : sel.Consistent catalogue) (hsel' : sel'.Consistent catalogue)
    (hmenus : ∀ id, id ∈ sel.menuIds ↔ id ∈ sel'.menuIds)
    (hitems : ∀ id, sel.submenuIds.get? id = sel'.submenuIds.get? id)
    (hoptions : ∀ id optionId, optionId ∈ sel.optionsOf id ↔ optionId ∈ sel'.optionsOf id) :
    sel.ChoosesSame sel' where
  menus := (List.perm_ext_iff_of_nodup hsel.nodup hsel'.nodup).mpr hmenus
  items := hitems
  options id :=
    (List.perm_ext_iff_of_nodup (hsel.nodup_optionsOf id) (hsel'.nodup_optionsOf id)).mpr
      (hoptions id)

/-- Two selections that differ in the order of menus and options only have the same totals, the same
phase and lack the same; their lines join the same parts in the order of the menus, with the options
of each part in another order.  Two runs of clicks that end with the same menus, items and options
have the same totals and the same phase.  They lack the same if both or neither of them end with a
date and a time, in particular if no date was clicked at all. -/
theorem choosing_order_irrelevant {limits : Limits} {source : Source} {config : FormConfig}
    (h : normalize limits source = .ok config) :
    (∀ sel sel' : Selection, sel.ChoosesSame sel' → sel.HasSameDetails sel' →
      sel.desired = sel'.desired →
        config.catalogue.totals sel = config.catalogue.totals sel' ∧
        config.catalogue.phase sel = config.catalogue.phase sel' ∧
        config.missing sel = config.missing sel' ∧
        config.catalogue.menuLine sel = " / ".intercalate
          ((sel.menuIds.filterMap (config.catalogue.segment? sel)).map Segment.text) ∧
        config.catalogue.menuLine sel' = " / ".intercalate
          ((sel'.menuIds.filterMap (config.catalogue.segment? sel')).map Segment.text) ∧
        ∀ menuId, Option.Rel Segment.Alike (config.catalogue.segment? sel menuId)
          (config.catalogue.segment? sel' menuId)) ∧
    ∀ cs cs' : List Click,
      let sel := config.catalogue.clicks .empty cs
      let sel' := config.catalogue.clicks .empty cs'
      (∀ id, id ∈ sel.menuIds ↔ id ∈ sel'.menuIds) →
      (∀ id, sel.submenuIds.get? id = sel'.submenuIds.get? id) →
      (∀ id optionId, optionId ∈ sel.optionsOf id ↔ optionId ∈ sel'.optionsOf id) →
        config.catalogue.totals sel = config.catalogue.totals sel' ∧
        config.catalogue.phase sel = config.catalogue.phase sel' ∧
        (config.missing sel = config.missing sel' ↔
          sel.desired.isComplete = sel'.desired.isComplete) ∧
        ((∀ c ∈ cs ++ cs', ∀ date time, c ≠ .dateTime date time) →
          config.missing sel = config.missing sel') := by
  refine ⟨fun sel sel' hsame hdetails hdesired => ?_, fun cs cs' => ?_⟩
  · exact ⟨Catalogue.totals_eq hsame, Catalogue.phase_eq hsame,
      (FormConfig.missing_eq_iff hsame hdetails).mpr (by rw [hdesired]),
      Catalogue.menuLine_eq_segments _ sel, Catalogue.menuLine_eq_segments _ sel',
      Catalogue.segment?_alike hsame⟩
  · intro sel sel' hmenus hitems hoptions
    have hconsistent := Selection.Consistent.clicks (wellFormed_of_normalize h).catalogue (.empty _)
    have hsame : sel.ChoosesSame sel' :=
      (hconsistent cs).choosesSame (hconsistent cs') hmenus hitems hoptions
    have hdetails : sel.HasSameDetails sel' := .of_eq <|
      (Catalogue.clearMenus_clicks .empty cs).trans (Catalogue.clearMenus_clicks .empty cs').symm
    have hmissing : config.missing sel = config.missing sel' ↔
        sel.desired.isComplete = sel'.desired.isComplete :=
      FormConfig.missing_eq_iff hsame hdetails
    refine ⟨Catalogue.totals_eq hsame, Catalogue.phase_eq hsame, hmissing, fun hdates => ?_⟩
    have hdesired : sel.desired = .empty :=
      Catalogue.desired_clicks (fun c hc => hdates c (List.mem_append_left _ hc)) rfl
    have hdesired' : sel'.desired = .empty :=
      Catalogue.desired_clicks (fun c hc => hdates c (List.mem_append_right _ hc)) rfl
    exact hmissing.mpr (by rw [hdesired, hdesired'])

/-- Categories that may be crossed: a leaf with options in one, a submenu in the other. -/
def salonCrossing : Json :=
  .obj [("menu_structure", .obj [("allow_cross_category_selection", .bool true),
    ("categories", .arr [
      .obj [("id", .str "hair"), ("name", .str "ヘア"), ("menus", .arr [
        .obj [("id", .str "cut"), ("name", .str "カット"), ("price", .int 4000),
          ("options", .arr [
            .obj [("id", .str "wash"), ("name", .str "シャンプー"), ("price", .int 500)],
            .obj [("id", .str "dry"), ("name", .str "ブロー"), ("price", .int 800)]])]])],
      .obj [("id", .str "care"), ("name", .str "ケア"), ("menus", .arr [
        .obj [("id", .str "color"), ("name", .str "カラー"), ("has_submenu", .bool true),
          ("sub_menu_items", .arr [
            .obj [("id", .str "full"), ("name", .str "フル"), ("price", .int 7000)]])]])]])])]

/-- Its configuration. -/
def crossingConfig : FormConfig :=
  .ofStored ⟨salonCrossing, salonCrossing, .null⟩

/-- Clicks that choose the leaf, its options, the submenu and a date. -/
def clicksLeafFirst : List Click :=
  [.menu "cut", .option "wash" none, .option "dry" none, .menu "color", .submenuItem "full" none,
    .dateTime "2024-05-01" "10:00"]

/-- Clicks that choose the same and another date, which options do not clear. -/
def clicksSubmenuFirst : List Click :=
  [.menu "color", .submenuItem "full" none, .menu "cut", .dateTime "2024-05-02" "11:00",
    .option "dry" none, .option "wash" none]

/-- The selection with everything that no click enters, and with a date. -/
def withDetails (sel : Selection) : Selection :=
  { sel with name := "山田", phone := "090", desired := ⟨"2024-05-01", "10:00"⟩ }

/-- Only the line tells which menu and which option was the first. -/
theorem choosing_order_irrelevant_crossing :
    normalize .standard (.value salonCrossing) = .ok crossingConfig ∧
      let sel := crossingConfig.catalogue.clicks .empty clicksLeafFirst
      let sel' := crossingConfig.catalogue.clicks .empty clicksSubmenuFirst
      crossingConfig.catalogue.menuLine sel =
        "ヘア > カット, シャンプー, ブロー / ケア > カラー > フル" ∧
      crossingConfig.catalogue.menuLine sel' =
        "ケア > カラー > フル / ヘア > カット, ブロー, シャンプー" ∧
      crossingConfig.catalogue.totals sel = ⟨12300, 0⟩ ∧
      crossingConfig.catalogue.totals sel' = ⟨12300, 0⟩ ∧
      crossingConfig.catalogue.phase sel' = .submenu ∧
      crossingConfig.missing sel' = [.nameOrPhone] ∧
      crossingConfig.missing (withDetails sel') = [] := by
  have hconfig : normalize .standard (.value salonCrossing) = .ok crossingConfig := rfl
  obtain ⟨hselections, hclicks⟩ := choosing_order_irrelevant hconfig
  let sel := crossingConfig.catalogue.clicks .empty clicksLeafFirst
  let sel' := crossingConfig.catalogue.clicks .empty clicksSubmenuFirst
  have hmenus : sel.menuIds.Perm sel'.menuIds := by
    rw [show sel.menuIds = ["cut", "color"] by decide +kernel,
      show sel'.menuIds = ["color", "cut"] by decide +kernel]
    exact .swap "color" "cut" []
  have hitems : sel.submenuIds = sel'.submenuIds := by decide +kernel
  have hoptions (id : String) : (sel.optionsOf id).Perm (sel'.optionsOf id) := by
    rw [Selection.optionsOf, Selection.optionsOf,
      show sel.selectedOptions = [("cut", ["wash", "dry"])] by decide +kernel,
      show sel'.selectedOptions = [("cut", ["dry", "wash"])] by decide +kernel]
    by_cases hid : id = "cut"
    · rw [Assoc.get?_cons, Assoc.get?_cons, if_pos hid, if_pos hid]
      exact .swap "dry" "wash" []
    · rw [Assoc.get?_cons, Assoc.get?_cons, if_neg hid, if_neg hid]
  obtain ⟨htotals, hphase, hmissing, -⟩ := hclicks clicksLeafFirst clicksSubmenuFirst
    (fun _ => hmenus.mem_iff) (fun id => congrArg (·.get? id) hitems)
    (fun id _ => (hoptions id).mem_iff)
  obtain ⟨-, -, hentered, -⟩ := hselections (withDetails sel) (withDetails sel')
    ⟨hmenus, fun id => congrArg (·.get? id) hitems, hoptions⟩ ⟨rfl, rfl, rfl, rfl, fun _ => rfl⟩ rfl
  have hleafFirst : crossingConfig.catalogue.totals sel = ⟨12300, 0⟩ := by decide +kernel
  exact ⟨hconfig, by decide +kernel, by decide +kernel, hleafFirst, htotals.symm.trans hleafFirst,
    hphase.symm.trans (by decide +kernel),
    (hmissing.mpr (by decide +kernel)).symm.trans (by decide +kernel),
    hentered.symm.trans (by decide +kernel)⟩

/-- The same clicks on menus and a date, the date the last of them. -/
def clicksDateLast : List Click :=
  [.menu "cut", .menu "color", .submenuItem "full" none, .dateTime "2024-05-01" "10:00"]

/-- The date before the second menu, which clears it. -/
def clicksDateEarly : List Click :=
  [.menu "cut", .dateTime "2024-05-01" "10:00", .menu "color", .submenuItem "full" none]

/-- The same clicks in another order choose the same, and only one of the orders ends with a
date. -/
theorem date_cleared_in_other_order :
    normalize .standard (.value salonCrossing) = .ok crossingConfig ∧
      crossingConfig.catalogue.crossCategory = true ∧
      clicksDateLast.Perm clicksDateEarly ∧
      let sel := crossingConfig.catalogue.clicks .empty clicksDateLast
      let sel' := crossingConfig.catalogue.clicks .empty clicksDateEarly
      sel.menuIds = sel'.menuIds ∧ sel.submenuIds = sel'.submenuIds ∧
      sel.selectedOptions = sel'.selectedOptions ∧
      crossingConfig.missing sel = [.nameOrPhone] ∧
      crossingConfig.missing sel' = [.nameOrPhone, .dateTime] := by
  exact ⟨rfl, by decide +kernel, by decide +kernel, by decide +kernel, by decide +kernel,
    by decide +kernel, by decide +kernel, by decide +kernel⟩

end SalonBooking
