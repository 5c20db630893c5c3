import SalonBooking.Proofs.Booking.Reordered

/-!
# What a click leaves alone

A selection need not come from clicks: a posted one may hold menus that the
catalogue does not know, and items and options under menus that are not
selected.  Whatever it holds, a click that is refused leaves all of it as it
was, and one that is accepted changes one thing.

A click on an item or an option that names no menu is for the latest selected
menu that has it.  Ids of options repeat across menus, so this is often one of
several.

* `find?_candidates_eq_some_iff`: the search from the end of the selected menus
  finds what `Selection.Target` says.
* `click_submenuItem_of_target`, `click_option_of_target`: an accepted click sets
  one entry.
* `click_submenuItem_of_no_target`, `click_option_of_no_target`: a refused one
  sets none.
* `EnteredAlike.click`, `EnteredAlike.clicks`: what the customer writes is never
  touched.
* `click_touches_one_part`: all of it for every selection.
-/

namespace SalonBooking

/-- What a customer enters besides menus and dates is the same. -/
structure Selection.EnteredAlike (sel sel' : Selection) : Prop where
  name : sel'.name = sel.name
  phone : sel'.phone = sel.phone
  gender : sel'.gender = sel.gender
  visitCount : sel'.visitCount = sel.visitCount
  coupon : sel'.coupon = sel.coupon
  customFields : sel'.customFields = sel.customFields
  message : sel'.message = sel.message

/-- The menu that a click is for is a selected one that fits: the one that it names, or, if it names
none, the one behind which no other one fits. -/
inductive Selection.Target (sel : Selection) (fits : String → Prop) : Option String → String → Prop
  | named {menuId : String} (hfits : fits menuId) (hselected : menuId ∈ sel.menuIds) :
      Target sel fits (some menuId) menuId
  | latest {menuId : String} {before after : List String} (hfits : fits menuId)
      (hmenus : sel.menuIds = before ++ menuId :: after) (hlater : ∀ id ∈ after, ¬ fits id) :
      Target sel fits none menuId

namespace Selection.Target

variable {sel : Selection} {fits : String → Prop} {named : Option String} {menuId : String}

theorem fits_of (h : sel.Target fits named menuId) : fits menuId := by
  cases h with
  | named hfits _ => exact hfits
  | latest hfits _ _ => exact hfits

theorem mem_menuIds (h : sel.Target fits named menuId) : menuId ∈ sel.menuIds := by
  cases h with
  | named _ hselected => exact hselected
  | latest _ hmenus _ =>
    rw [hmenus]
    exact List.mem_append_right _ List.mem_cons_self

/-- A click that names no menu is for the same one as the click that names it. -/
theorem some_of_none (h : sel.Target fits none menuId) : sel.Target fits (some menuId) menuId :=
  .named h.fits_of h.mem_menuIds

end Selection.Target

/-! ## The search for the menu -/

namespace Catalogue

variable {catalogue : Catalogue} {sel : Selection} {menuId itemId optionId : String}
  {named : Option String}

/-- An id leads to a submenu that has an item. -/
def HasItem (catalogue : Catalogue) (itemId menuId : String) : Prop :=
  ∃ category menu, catalogue.findMenu? menuId = some (category, .submenu menu) ∧
    itemId ∈ menu.items.map SubmenuItem.id

/-- An id leads to a leaf that has an option. -/
def HasOption (catalogue : Catalogue) (optionId menuId : String) : Prop :=
  ∃ category menu, catalogue.findMenu? menuId = some (category, .leaf menu) ∧
    optionId ∈ menu.options.map MenuOption.id

theorem hasItem_eq_true_iff : catalogue.hasItem itemId menuId = true ↔
    catalogue.HasItem itemId menuId := by
  rw [hasItem_iff]
  refine exists₂_congr fun category menu => and_congr_right fun _ => ?_
  simp [SubmenuMenu.findItem?, List.find?_isSome]

theorem hasOption_eq_true_iff : catalogue.hasOption optionId menuId = true ↔
    catalogue.HasOption optionId menuId := by
  rw [hasOption_iff]
  refine exists₂_congr fun category menu => and_congr_right fun _ => ?_
  simp [LeafMenu.findOption?, List.find?_isSome]

/-- The search from the end of the selected menus finds the one that a click is for. -/
theorem find?_candidates_eq_some_iff {fits : String → Bool} {Fits : String → Prop}
    (hfits : ∀ id, fits id = true ↔ Fits id) :
    (sel.candidates named).find? fits = some menuId ↔ sel.Target Fits named menuId := by
  cases named with
  | some id =>
    rw [Selection.candidates]
    constructor
    · intro hfound
      have hmem := List.mem_of_find?_eq_some hfound
      split at hmem
      · rename_i hselected
        obtain rfl := List.mem_singleton.mp hmem
        exact .named ((hfits menuId).mp (List.find?_some hfound))
          (List.contains_iff_mem.mp hselected)
      · exact absurd hmem List.not_mem_nil
    · intro htarget
      cases htarget with
      | named hfit hselected =>
        rw [if_pos (List.contains_iff_mem.mpr hselected),
          List.find?_cons_of_pos ((hfits menuId).mpr hfit)]
  | none =>
    rw [Selection.candidates, List.find?_eq_some_iff_append]
    constructor
    · rintro ⟨hfit, after, before, hmenus, hlater⟩
      have hsplit : sel.menuIds = before.reverse ++ menuId :: after.reverse := by
        rw [← List.reverse_reverse sel.menuIds, hmenus]
        simp
      refine .latest ((hfits menuId).mp hfit) hsplit fun id hid hfit' => ?_
      have hnot := hlater id (List.mem_reverse.mp hid)
      rw [(hfits id).mpr hfit'] at hnot
      exact Bool.noConfusion hnot
    · intro htarget
      cases htarget with
      | @latest _ before after hfit hmenus hlater =>
        refine ⟨(hfits menuId).mpr hfit, after.reverse, before.reverse, ?_, ?_⟩
        · rw [hmenus]
          simp
        · intro id hid
          have hnot : ¬ fits id = true := fun hfit' =>
            hlater id (List.mem_reverse.mp hid) ((hfits id).mp hfit')
          simpa using hnot

theorem find?_candidates_of_no_target {fits : String → Bool} {Fits : String → Prop}
    (hfits : ∀ id, fits id = true ↔ Fits id) (hnone : ∀ id, ¬ sel.Target Fits named id) :
    (sel.candidates named).find? fits = none := by
  cases hfound : (sel.candidates named).find? fits with
  | none => rfl
  | some id => exact absurd ((find?_candidates_eq_some_iff hfits).mp hfound) (hnone id)

/-- A click that names no menu is for one exactly if a selected menu fits. -/
theorem exists_target_none_iff {Fits : String → Prop} :
    (∃ id, sel.Target Fits none id) ↔ ∃ id ∈ sel.menuIds, Fits id := by
  classical
  constructor
  · rintro ⟨id, htarget⟩
    exact ⟨id, htarget.mem_menuIds, htarget.fits_of⟩
  · rintro ⟨id, hid, hfit⟩
    have hfits (id : String) : decide (Fits id) = true ↔ Fits id := decide_eq_true_iff
    by_contra hnone
    have hsearch := find?_candidates_of_no_target hfits fun id htarget => hnone ⟨id, htarget⟩
    rw [Selection.candidates, List.find?_eq_none] at hsearch
    exact hsearch id (List.mem_reverse.mpr hid) ((hfits id).mpr hfit)

/-! ## Items and options -/

/-- An item is set under the menu that the click is for. -/
theorem click_submenuItem_of_target (htarget : sel.Target (catalogue.HasItem itemId) named menuId) :
    let next := { sel with submenuIds := Assoc.set menuId itemId sel.submenuIds }
    catalogue.click sel (.submenuItem itemId named) = (.phase (catalogue.phase next), next) := by
  have hfound := (find?_candidates_eq_some_iff fun _ => hasItem_eq_true_iff).mpr htarget
  simp only [click, selectItem, hfound]

theorem click_submenuItem_of_no_target
    (hnone : ∀ id, ¬ sel.Target (catalogue.HasItem itemId) named id) :
    catalogue.click sel (.submenuItem itemId named) = (.phase (catalogue.phase sel), sel) := by
  have hfound := find?_candidates_of_no_target (fun _ => hasItem_eq_true_iff) hnone
  simp only [click, selectItem, hfound]

/-- An option is flipped under the menu that the click is for. -/
theorem click_option_of_target (htarget : sel.Target (catalogue.HasOption optionId) named menuId) :
    let flipped := flipOption optionId (sel.optionsOf menuId)
    catalogue.click sel (.option optionId named) =
      (.selected flipped.1, sel.withOptions menuId flipped.2) := by
  have hfound := (find?_candidates_eq_some_iff fun _ => hasOption_eq_true_iff).mpr htarget
  simp only [click, toggleOption, hfound]
  rfl

/-- A flip answers whether the option was not there before. -/
theorem fst_flipOption (optionId : String) (options : List String) :
    (flipOption optionId options).1 = !options.contains optionId := by
  rw [flipOption]
  cases options.contains optionId <;> rfl

theorem click_option_of_no_target
    (hnone : ∀ id, ¬ sel.Target (catalogue.HasOption optionId) named id) :
    catalogue.click sel (.option optionId named) = (.selected false, sel) := by
  have hfound := find?_candidates_of_no_target (fun _ => hasOption_eq_true_iff) hnone
  simp only [click, toggleOption, hfound]

end Catalogue

/-! ## What is never touched -/

namespace Selection.EnteredAlike

variable {sel sel' : Selection}

/-- Two selections that differ in menus and dates only. -/
theorem of_eq (h : sel'.clearDates.clearMenus = sel.clearDates.clearMenus) :
    sel.EnteredAlike sel' := by
  simp only [clearMenus, clearDates, Selection.mk.injEq] at h
  obtain ⟨hname, hphone, hgender, hvisitCount, hcoupon, hfields, -, -, -, -, -, hmessage⟩ := h
  exact ⟨hname, hphone, hgender, hvisitCount, hcoupon, hfields, hmessage⟩

theorem click (catalogue : Catalogue) (sel : Selection) (c : Click) :
    sel.EnteredAlike (catalogue.click sel c).2 :=
  of_eq (Catalogue.clearMenus_click sel c)

theorem clicks (catalogue : Catalogue) (sel : Selection) (cs : List Click) :
    sel.EnteredAlike (catalogue.clicks sel cs) :=
  of_eq (Catalogue.clearMenus_clicks sel cs)

end Selection.EnteredAlike

/-- Whatever a selection holds, a click changes one part of it at most.

* A menu that the catalogue does not have, an item or an option that the click is for no menu with,
  and a date before all is chosen change nothing at all.
* An item changes the one entry of its menu among the items, an option the one entry of its menu
  among the options, a date the date.
* Without a menu's name the click is for the last selected menu that has the item or the option, as
  if it named this menu; there is one exactly if a selected menu has it.
* No click, and no run of them, changes what else the customer enters. -/
theorem click_touches_one_part (catalogue : Catalogue) (sel : Selection) :
    (∀ menuId, catalogue.findMenu? menuId = none →
      catalogue.click sel (.menu menuId) = (.phase (catalogue.phase sel), sel)) ∧
    (∀ itemId named,
      (∀ menuId, sel.Target (catalogue.HasItem itemId) named menuId → menuId ∈ sel.menuIds ∧
        ∃ items, items.get? menuId = some itemId ∧
          Assoc.erase menuId items = Assoc.erase menuId sel.submenuIds ∧
          catalogue.click sel (.submenuItem itemId named) =
            (.phase (catalogue.phase { sel with submenuIds := items }),
              { sel with submenuIds := items })) ∧
      ((∀ menuId, ¬ sel.Target (catalogue.HasItem itemId) named menuId) →
        catalogue.click sel (.submenuItem itemId named) = (.phase (catalogue.phase sel), sel))) ∧
    (∀ optionId named,
      (∀ menuId, sel.Target (catalogue.HasOption optionId) named menuId → menuId ∈ sel.menuIds ∧
        ∃ options, options.get? menuId =
            some (Catalogue.flipOption optionId (sel.optionsOf menuId)).2 ∧
          Assoc.erase menuId options = Assoc.erase menuId sel.selectedOptions ∧
          catalogue.click sel (.option optionId named) =
            (.selected !(sel.optionsOf menuId).contains optionId,
              { sel with selectedOptions := options })) ∧
      ((∀ menuId, ¬ sel.Target (catalogue.HasOption optionId) named menuId) →
        catalogue.click sel (.option optionId named) = (.selected false, sel))) ∧
    (∀ date time,
      ((catalogue.phase sel).isTerminal = true → catalogue.click sel (.dateTime date time) =
        (.selected true, { sel with desired := ⟨date, time⟩ })) ∧
      ((catalogue.phase sel).isTerminal = false →
        catalogue.click sel (.dateTime date time) = (.selected false, sel))) ∧
    (∀ id,
      ((∃ menuId, sel.Target (catalogue.HasItem id) none menuId) ↔
        ∃ menuId ∈ sel.menuIds, catalogue.HasItem id menuId) ∧
      ((∃ menuId, sel.Target (catalogue.HasOption id) none menuId) ↔
        ∃ menuId ∈ sel.menuIds, catalogue.HasOption id menuId) ∧
      ∀ menuId,
        (sel.Target (catalogue.HasItem id) none menuId →
          catalogue.click sel (.submenuItem id none) =
            catalogue.click sel (.submenuItem id (some menuId))) ∧
        (sel.Target (catalogue.HasOption id) none menuId →
          catalogue.click sel (.option id none) =
            catalogue.click sel (.option id (some menuId)))) ∧
    (∀ c, sel.EnteredAlike (catalogue.click sel c).2) ∧
    ∀ cs, sel.EnteredAlike (catalogue.clicks sel cs) := by
  refine ⟨?_, ?_, ?_, ?_, ?_, .click catalogue sel, .clicks catalogue sel⟩
  · intro menuId hunknown
    simp only [Catalogue.click, Catalogue.selectMenu, hunknown]
  · intro itemId named
    refine ⟨fun menuId htarget => ⟨htarget.mem_menuIds, ?_⟩,
      Catalogue.click_submenuItem_of_no_target⟩
    exact ⟨_, Assoc.get?_set_self menuId itemId sel.submenuIds, Assoc.erase_set _ _ _,
      Catalogue.click_submenuItem_of_target htarget⟩
  · intro optionId named
    refine ⟨fun menuId htarget => ⟨htarget.mem_menuIds, ?_⟩, Catalogue.click_option_of_no_target⟩
    refine ⟨_, Assoc.get?_set_self menuId _ sel.selectedOptions, Assoc.erase_set _ _ _, ?_⟩
    rw [Catalogue.click_option_of_target htarget, Catalogue.fst_flipOption]
    rfl
  · intro date time
    constructor
    · intro hterminal
      simp only [Catalogue.click, Catalogue.selectDateTime, if_pos hterminal]
    · intro hopen
      simp only [Catalogue.click, Catalogue.selectDateTime, hopen, Bool.false_eq_true, if_false]
  · intro id
    refine ⟨Catalogue.exists_target_none_iff, Catalogue.exists_target_none_iff, fun menuId => ?_⟩
    constructor
    · intro htarget
      rw [Catalogue.click_submenuItem_of_target htarget,
        Catalogue.click_submenuItem_of_target htarget.some_of_none]
    · intro htarget
      rw [Catalogue.click_option_of_target htarget,
        Catalogue.click_option_of_target htarget.some_of_none]

/-- A category that takes several menus: two leaves, each with an option, and a submenu, all but the
menus without ids. -/
def salonWithRepeatedOption : Json :=
  .obj [("menu_structure", .obj [("categories", .arr [
    .obj [("id", .str "hair"), ("selection_mode", .str "multiple"), ("menus", .arr [
      .obj [("id", .str "cut"), ("options", .arr [.obj []])],
      .obj [("id", .str "bang"), ("options", .arr [.obj []])],
      .obj [("id", .str "color"), ("has_submenu", .bool true),
        ("sub_menu_items", .arr [.obj []])]])]])])]

/-- Its configuration. -/
def repeatedOptionConfig : FormConfig :=
  .ofStored ⟨salonWithRepeatedOption, salonWithRepeatedOption, .null⟩

/-- A selection that no clicks lead to: with an unknown menu, an item under a leaf, and an option
under a submenu. -/
def jumbledSelection : Selection :=
  { Selection.empty with
    name := "山田"
    menuIds := ["cut", "bang", "unknown", "color"]
    submenuIds := [("cut", "submenu-0")]
    selectedOptions := [("color", ["option-0"]), ("cut", ["option-0"])] }

/-- The option that both leaves have is chosen under the later one and refused under the submenu,
and no date is accepted before the submenu has its item. -/
theorem click_touches_one_part_jumbled :
    normalize .standard (.value salonWithRepeatedOption) = .ok repeatedOptionConfig ∧
      let catalogue := repeatedOptionConfig.catalogue
      let sel := jumbledSelection
      catalogue.click sel (.menu "unknown") = (.phase .awaitingSubmenu, sel) ∧
      catalogue.click sel (.option "option-0" none) =
        catalogue.click sel (.option "option-0" (some "bang")) ∧
      (∃ options, options.get? "bang" = some ["option-0"] ∧
        Assoc.erase "bang" options = sel.selectedOptions ∧
        catalogue.click sel (.option "option-0" none) =
          (.selected true, { sel with selectedOptions := options })) ∧
      catalogue.click sel (.option "option-0" (some "color")) = (.selected false, sel) ∧
      catalogue.click sel (.dateTime "2024-05-01" "10:00") = (.selected false, sel) := by
  obtain ⟨hmenus, -, hoptions, hdates, hlatest, -, -⟩ :=
    click_touches_one_part repeatedOptionConfig.catalogue jumbledSelection
  have hlacks (menuId : String)
      (h : repeatedOptionConfig.catalogue.hasOption "option-0" menuId = false) :
      ¬ repeatedOptionConfig.catalogue.HasOption "option-0" menuId := by
    rw [← Catalogue.hasOption_eq_true_iff, h]
    exact Bool.false_ne_true
  have hbang : jumbledSelection.Target (repeatedOptionConfig.catalogue.HasOption "option-0") none
      "bang" := by
    have hmenus : jumbledSelection.menuIds = ["cut"] ++ "bang" :: ["unknown", "color"] := rfl
    refine .latest (Catalogue.hasOption_eq_true_iff.mp (by decide +kernel)) hmenus ?_
    rw [List.forall_mem_cons, List.forall_mem_singleton]
    exact ⟨hlacks "unknown" (by decide +kernel), hlacks "color" (by decide +kernel)⟩
  have hphase : repeatedOptionConfig.catalogue.phase jumbledSelection = .awaitingSubmenu := by
    decide +kernel
  refine ⟨rfl, ?_, ((hlatest "option-0").2.2 "bang").2 hbang, ?_, ?_, ?_⟩
  · rw [hmenus "unknown" (by decide +kernel), hphase]
  · exact ((hoptions "option-0" none).1 "bang" hbang).2
  · refine (hoptions "option-0" (some "color")).2 fun menuId htarget => ?_
    cases htarget with
    | named hfits _ => exact hlacks "color" (by decide +kernel) hfits
  · exact (hdates "2024-05-01" "10:00").2 (by rw [hphase]; rfl)

end SalonBooking
