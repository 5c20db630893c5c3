import Mathlib.Data.List.Nodup
import SalonBooking.Proofs.Booking.Phase
import SalonBooking.Proofs.Data.Assoc
import SalonBooking.Proofs.Form.WellFormed

/-!
# Selections that clicks lead to

A selection names menus, items and options by their ids, and nothing in its
type ties the three together.  `Selection.Consistent` is what clicks keep true
of them: every menu is known and selected once, items and options belong to
selected menus of the right kind, menus of several categories stand together
only where that is allowed, and a date is there only if nothing more has to be
chosen.

Every change of a selection is made of a few steps: dates are cleared, a menu
is dropped or added, the item or the options of one menu are set.  There is one
lemma for each step.  `Consistent.click` is the lemma for a click, and
`consistent_clicks` the statement about every run of clicks from the empty
selection.

Menus are only dropped and added after the dates have been cleared.  The lemmas
about these steps say so with `sel.desired = .empty`, since the phase may fall
back in between.
-/

namespace SalonBooking

/-- What holds of every selection that clicks lead to. -/
structure Selection.Consistent (catalogue : Catalogue) (sel : Selection) : Prop where
  /-- No menu is selected twice. -/
  nodup : sel.menuIds.Nodup
  /-- Every selected menu is known. -/
  found : ∀ id ∈ sel.menuIds, (catalogue.findMenu? id).isSome = true
  /-- A chosen item is one of a selected submenu. -/
  items : ∀ entry ∈ sel.submenuIds, entry.1 ∈ sel.menuIds ∧
    ∃ category menu, catalogue.findMenu? entry.1 = some (category, .submenu menu) ∧
      (menu.findItem? entry.2).isSome = true
  /-- Chosen options are ones of a selected leaf, each chosen once. -/
  options : ∀ entry ∈ sel.selectedOptions, entry.1 ∈ sel.menuIds ∧
    ∃ category menu, catalogue.findMenu? entry.1 = some (category, .leaf menu) ∧
      entry.2.Nodup ∧ ∀ optionId ∈ entry.2, (menu.findOption? optionId).isSome = true
  /-- Unless categories may be crossed, all selected menus are in categories of one id. -/
  oneCategory : catalogue.crossCategory = false →
    ∃ categoryId, ∀ id ∈ sel.menuIds, ∃ category menu,
      catalogue.findMenu? id = some (category, menu) ∧ category.id = categoryId
  /-- A date is there only if nothing more has to be chosen. -/
  terminal : sel.desired ≠ .empty → (catalogue.phase sel).isTerminal = true

namespace Selection.Consistent

variable {catalogue : Catalogue} {sel : Selection}

/-! ## What is chosen under a menu -/

/-- Items are chosen under selected menus only. -/
theorem keys_submenuIds_subset (h : sel.Consistent catalogue) :
    sel.submenuIds.keys ⊆ sel.menuIds := by
  intro id hid
  obtain ⟨entry, hentry, rfl⟩ := List.mem_map.mp hid
  exact (h.items entry hentry).1

/-- So are options. -/
theorem keys_selectedOptions_subset (h : sel.Consistent catalogue) :
    sel.selectedOptions.keys ⊆ sel.menuIds := by
  intro id hid
  obtain ⟨entry, hentry, rfl⟩ := List.mem_map.mp hid
  exact (h.options entry hentry).1

/-- No option is chosen twice. -/
theorem nodup_optionsOf (h : sel.Consistent catalogue) (menuId : String) :
    (sel.optionsOf menuId).Nodup := by
  rw [Selection.optionsOf]
  cases hget : sel.selectedOptions.get? menuId with
  | none => exact List.nodup_nil
  | some options =>
    obtain ⟨-, _, _, -, hnodup, -⟩ := h.options _ (Assoc.mem_of_get? hget)
    exact hnodup

/-- The options chosen under a leaf are ones that it has. -/
theorem isSome_of_mem_optionsOf (h : sel.Consistent catalogue) {menuId : String}
    {category : Category} {menu : LeafMenu}
    (hfound : catalogue.findMenu? menuId = some (category, .leaf menu)) :
    ∀ optionId ∈ sel.optionsOf menuId, (menu.findOption? optionId).isSome = true := by
  rw [Selection.optionsOf]
  cases hget : sel.selectedOptions.get? menuId with
  | none => exact fun _ hmem => absurd hmem List.not_mem_nil
  | some options =>
    obtain ⟨-, _, menu', hfound', -, hall⟩ := h.options _ (Assoc.mem_of_get? hget)
    rw [hfound] at hfound'
    obtain ⟨rfl, rfl⟩ : category = _ ∧ menu = menu' := by simpa using hfound'
    exact hall

/-! ## Steps on the menus -/

/-- Without menus there is nothing to go wrong. -/
theorem of_no_menus (hmenus : sel.menuIds = []) (hitems : sel.submenuIds = [])
    (hoptions : sel.selectedOptions = []) (hdates : sel.desired = .empty) :
    sel.Consistent catalogue where
  nodup := by simp [hmenus]
  found := by simp [hmenus]
  items := by simp [hitems]
  options := by simp [hoptions]
  oneCategory _ := ⟨"", by simp [hmenus]⟩
  terminal hne := absurd hdates hne

theorem empty (catalogue : Catalogue) : Selection.empty.Consistent catalogue :=
  of_no_menus rfl rfl rfl rfl

theorem clearDates (h : sel.Consistent catalogue) : sel.clearDates.Consistent catalogue where
  nodup := h.nodup
  found := h.found
  items := h.items
  options := h.options
  oneCategory := h.oneCategory
  terminal hne := absurd rfl hne

theorem dropMenu (h : sel.Consistent catalogue) (hdates : sel.desired = .empty)
    (menuId : String) : (sel.dropMenu menuId).Consistent catalogue := by
  have hkept {id : String} : id ∈ (sel.dropMenu menuId).menuIds ↔
      id ∈ sel.menuIds ∧ id ≠ menuId := by
    simp [Selection.dropMenu, List.mem_filter]
  refine ⟨h.nodup.filter _, ?_, ?_, ?_, ?_, fun hne => absurd hdates hne⟩
  · intro id hid
    exact h.found id (hkept.mp hid).1
  · intro entry hentry
    obtain ⟨hmem, hne⟩ := Assoc.mem_erase.mp hentry
    obtain ⟨hmenu, hitem⟩ := h.items entry hmem
    exact ⟨hkept.mpr ⟨hmenu, hne⟩, hitem⟩
  · intro entry hentry
    obtain ⟨hmem, hne⟩ := Assoc.mem_erase.mp hentry
    obtain ⟨hmenu, hoption⟩ := h.options entry hmem
    exact ⟨hkept.mpr ⟨hmenu, hne⟩, hoption⟩
  · intro hcross
    obtain ⟨categoryId, hall⟩ := h.oneCategory hcross
    exact ⟨categoryId, fun id hid => hall id (hkept.mp hid).1⟩

/-- A known menu that is not selected yet may be added next to menus of its own category. -/
theorem addMenu (h : sel.Consistent catalogue) (hdates : sel.desired = .empty)
    {menuId : String} (hnew : menuId ∉ sel.menuIds) {category : Category} {menu : Menu}
    (hfound : catalogue.findMenu? menuId = some (category, menu))
    (hcategory : catalogue.crossCategory = false →
      ∀ id ∈ sel.menuIds, catalogue.isInCategory category.id id = true) :
    (sel.addMenu menuId).Consistent catalogue := by
  have hmem {id : String} : id ∈ (sel.addMenu menuId).menuIds ↔
      id ∈ sel.menuIds ∨ id = menuId := by
    simp [Selection.addMenu]
  refine ⟨?_, ?_, ?_, ?_, ?_, fun hne => absurd hdates hne⟩
  · exact List.nodup_append.mpr ⟨h.nodup, List.nodup_singleton _, fun a ha b hb hab =>
      hnew (List.mem_singleton.mp hb ▸ hab ▸ ha)⟩
  · intro id hid
    rcases hmem.mp hid with hid | rfl
    · exact h.found id hid
    · rw [hfound]
      rfl
  · intro entry hentry
    obtain ⟨hmenu, hitem⟩ := h.items entry hentry
    exact ⟨hmem.mpr (Or.inl hmenu), hitem⟩
  · intro entry hentry
    obtain ⟨hmenu, hoption⟩ := h.options entry hentry
    exact ⟨hmem.mpr (Or.inl hmenu), hoption⟩
  · intro hcross
    refine ⟨category.id, fun id hid => ?_⟩
    rcases hmem.mp hid with hid | rfl
    · exact Catalogue.isInCategory_iff.mp (hcategory hcross id hid)
    · exact ⟨category, menu, hfound, rfl⟩

/-- Dropping menus one after the other keeps a selection consistent, and none of them stays. -/
theorem foldl_dropMenu (ids : List String) (h : sel.Consistent catalogue)
    (hdates : sel.desired = .empty) :
    (ids.foldl Selection.dropMenu sel).Consistent catalogue ∧
      (ids.foldl Selection.dropMenu sel).desired = .empty ∧
      ∀ id, id ∈ (ids.foldl Selection.dropMenu sel).menuIds ↔ id ∈ sel.menuIds ∧ id ∉ ids := by
  induction ids generalizing sel with
  | nil => exact ⟨h, hdates, by simp⟩
  | cons menuId rest ih =>
    obtain ⟨hrest, hdatesRest, hmem⟩ := ih (h.dropMenu hdates menuId) hdates
    refine ⟨hrest, hdatesRest, fun id => (hmem id).trans ?_⟩
    simp only [Selection.dropMenu, List.mem_filter, decide_eq_true_eq, List.mem_cons, not_or,
      and_assoc]

/-- What is left without the other categories is consistent and of the one category. -/
theorem dropOtherCategories (h : sel.Consistent catalogue) (hdates : sel.desired = .empty)
    (categoryId : String) :
    let kept := catalogue.dropOtherCategories categoryId sel
    kept.Consistent catalogue ∧ kept.desired = .empty ∧
      ∀ id, id ∈ kept.menuIds ↔
        id ∈ sel.menuIds ∧ catalogue.isInCategory categoryId id = true := by
  obtain ⟨hkept, hdatesKept, hmem⟩ := h.foldl_dropMenu
    (sel.menuIds.filter fun id => !catalogue.isInCategory categoryId id) hdates
  refine ⟨hkept, hdatesKept, fun id => (hmem id).trans ?_⟩
  simp only [List.mem_filter, Bool.not_eq_true', not_and, Bool.not_eq_false]
  exact ⟨fun hid => ⟨hid.1, hid.2 hid.1⟩, fun hid => ⟨hid.1, fun _ => hid.2⟩⟩

/-! ## Clicks -/

theorem toggleMenu (h : sel.Consistent catalogue) (hdates : sel.desired = .empty)
    {menuId : String} {category : Category} {menu : Menu}
    (hfound : catalogue.findMenu? menuId = some (category, menu)) :
    (catalogue.toggleMenu category menuId sel).Consistent catalogue := by
  have hcleared : sel.clearMenus.Consistent catalogue := of_no_menus rfl rfl rfl hdates
  rw [Catalogue.toggleMenu]
  split
  · -- One menu at a time: the selection is replaced, or taken back.
    split
    · exact hcleared
    · exact hcleared.addMenu hdates (by simp [Selection.clearMenus]) hfound
        (by simp [Selection.clearMenus])
  · split
    · exact h.dropMenu hdates menuId
    · rename_i hnew
      have hnew : menuId ∉ sel.menuIds := by simpa using hnew
      split
      · rename_i hcross
        refine h.addMenu hdates hnew hfound fun hno => ?_
        rw [hcross] at hno
        exact absurd hno (by decide)
      · obtain ⟨hkept, hdatesKept, hmem⟩ := h.dropOtherCategories hdates category.id
        exact hkept.addMenu hdatesKept (fun hin => hnew ((hmem menuId).mp hin).1) hfound
          fun _ id hid => ((hmem id).mp hid).2

theorem selectMenu (h : sel.Consistent catalogue) (menuId : String) :
    (catalogue.selectMenu menuId sel).Consistent catalogue := by
  rw [Catalogue.selectMenu]
  split
  · rename_i category menu hfound
    exact h.clearDates.toggleMenu rfl hfound
  · exact h

/-- A menu that a click on an item or an option may mean is selected. -/
theorem mem_menuIds_of_mem_candidates {menuId : Option String} {id : String}
    (h : id ∈ sel.candidates menuId) : id ∈ sel.menuIds := by
  cases menuId with
  | none => simpa [Selection.candidates] using h
  | some named =>
    simp only [Selection.candidates] at h
    split at h
    · rename_i hselected
      rw [List.mem_singleton.mp h]
      simpa using hselected
    · simp at h

/-- An item that is found has an id; the empty id would count as no choice at all. -/
theorem itemId_ne_empty (hcatalogue : catalogue.WellFormed) {menuId itemId : String}
    {category : Category} {menu : SubmenuMenu}
    (hfound : catalogue.findMenu? menuId = some (category, .submenu menu))
    (hitem : (menu.findItem? itemId).isSome = true) : itemId ≠ "" := by
  obtain ⟨hcategory, hmenu, -⟩ := Catalogue.mem_of_findMenu? hfound
  have hwf : menu.WellFormed := (hcatalogue.categories category hcategory).menus _ hmenu
  obtain ⟨item, hitem⟩ := Option.isSome_iff_exists.mp hitem
  have hid : item.id = itemId := by simpa using List.find?_some hitem
  rw [← hid]
  exact (hwf.items item (List.mem_of_find?_eq_some hitem)).id

/-- An item set under a selected submenu resolves that menu and leaves the others as they are. -/
theorem selectItem (hcatalogue : catalogue.WellFormed) (h : sel.Consistent catalogue)
    (itemId : String) (menuId : Option String) :
    (catalogue.selectItem itemId menuId sel).Consistent catalogue := by
  rw [Catalogue.selectItem]
  split
  · rename_i id hfind
    have hselected : id ∈ sel.menuIds :=
      mem_menuIds_of_mem_candidates (List.mem_of_find?_eq_some hfind)
    have hitem := Catalogue.hasItem_iff.mp (List.find?_some hfind)
    refine ⟨h.nodup, h.found, ?_, h.options, h.oneCategory, ?_⟩
    · intro entry hentry
      rcases Assoc.mem_set hentry with rfl | hold
      · exact ⟨hselected, hitem⟩
      · exact h.items entry hold
    · intro hne
      obtain ⟨hsome, hall⟩ := Catalogue.phase_isTerminal_iff.mp (h.terminal hne)
      refine Catalogue.phase_isTerminal_iff.mpr ⟨hsome, ?_⟩
      intro other hother category menu hfound
      have hid : menu.id = other := Catalogue.findMenu?_id hfound
      by_cases hsame : other = id
      · obtain ⟨_, menu', hfound', hfits⟩ := hitem
        rw [← hsame, hfound] at hfound'
        obtain ⟨rfl, rfl⟩ : category = _ ∧ menu = menu' := by simpa using hfound'
        refine ⟨itemId, ?_, itemId_ne_empty hcatalogue hfound hfits, hfits⟩
        rw [hid, hsame]
        exact Assoc.get?_set_self id itemId sel.submenuIds
      · obtain ⟨chosen, hchosen, hchosenItem⟩ := hall other hother category menu hfound
        refine ⟨chosen, ?_, hchosenItem⟩
        rw [← hchosen]
        exact Assoc.get?_set_of_ne (hid ▸ hsame) itemId sel.submenuIds
  · exact h

/-- Flipping an option keeps a list without repetitions, of options that are there. -/
theorem flipOption_spec {p : String → Prop} {optionId : String} {options : List String}
    (hnodup : options.Nodup) (hall : ∀ o ∈ options, p o) (hp : p optionId) :
    (Catalogue.flipOption optionId options).2.Nodup ∧
      ∀ o ∈ (Catalogue.flipOption optionId options).2, p o := by
  rw [Catalogue.flipOption]
  split
  · exact ⟨hnodup.filter _, fun o ho => hall o (List.mem_filter.mp ho).1⟩
  · rename_i hnew
    have hnew : optionId ∉ options := by simpa using hnew
    refine ⟨?_, ?_⟩
    · exact List.nodup_append.mpr ⟨hnodup, List.nodup_singleton optionId, fun a ha b hb hab =>
        hnew (List.mem_singleton.mp hb ▸ hab ▸ ha)⟩
    · intro o ho
      rcases List.mem_append.mp ho with ho | ho
      · exact hall o ho
      · rw [List.mem_singleton.mp ho]
        exact hp

theorem toggleOption (h : sel.Consistent catalogue) (optionId : String)
    (menuId : Option String) :
    (catalogue.toggleOption optionId menuId sel).2.Consistent catalogue := by
  rw [Catalogue.toggleOption]
  split
  · rename_i id hfind
    have hselected : id ∈ sel.menuIds :=
      mem_menuIds_of_mem_candidates (List.mem_of_find?_eq_some hfind)
    obtain ⟨category, menu, hfound, hoption⟩ :=
      Catalogue.hasOption_iff.mp (List.find?_some hfind)
    have hflipped := flipOption_spec (h.nodup_optionsOf id) (h.isSome_of_mem_optionsOf hfound)
      hoption
    refine ⟨h.nodup, h.found, h.items, ?_, h.oneCategory, ?_⟩
    · intro entry hentry
      rcases Assoc.mem_set hentry with rfl | hold
      · exact ⟨hselected, category, menu, hfound, hflipped⟩
      · exact h.options entry hold
    · intro hne
      rw [← h.terminal hne]
      exact Catalogue.phase_isTerminal_congr rfl rfl
  · exact h

theorem selectDateTime (h : sel.Consistent catalogue) (date time : String) :
    (catalogue.selectDateTime date time sel).2.Consistent catalogue := by
  rw [Catalogue.selectDateTime]
  split
  · rename_i hterminal
    refine ⟨h.nodup, h.found, h.items, h.options, h.oneCategory, fun _ => ?_⟩
    rw [← hterminal]
    exact Catalogue.phase_isTerminal_congr rfl rfl
  · exact h

/-- A click keeps a selection consistent. -/
theorem click (hcatalogue : catalogue.WellFormed) (h : sel.Consistent catalogue) (c : Click) :
    (catalogue.click sel c).2.Consistent catalogue := by
  cases c with
  | menu id => exact h.selectMenu id
  | submenuItem id menuId => exact h.selectItem hcatalogue id menuId
  | option id menuId => exact h.toggleOption id menuId
  | dateTime date time => exact h.selectDateTime date time

/-- A run of clicks keeps a selection consistent. -/
theorem clicks (hcatalogue : catalogue.WellFormed) (h : sel.Consistent catalogue)
    (cs : List Click) : (catalogue.clicks sel cs).Consistent catalogue := by
  induction cs generalizing sel with
  | nil => exact h
  | cons c rest ih => exact ih (h.click hcatalogue c)

end Selection.Consistent

/-- Every run of clicks from the empty selection ends in a consistent one, whatever the form is
made from. -/
theorem consistent_clicks {limits : Limits} {source : Source} {config : FormConfig}
    (h : normalize limits source = .ok config) (cs : List Click) :
    (config.catalogue.clicks .empty cs).Consistent config.catalogue :=
  Selection.Consistent.clicks (wellFormed_of_normalize h).catalogue (.empty _) cs

/-- A category that takes several menus, among them two of one id of which only the first is ever
found, and a category of which nothing is said. -/
def salonWithRepeatedMenu : Json :=
  .obj [("basic_info", .obj []), ("menu_structure", .obj [("categories", .arr [
    .obj [("id", .str "hair"), ("selection_mode", .str "multiple"), ("menus", .arr [
      .obj [("id", .str "cut"), ("options", .arr [.obj [("id", .str "wash")]])],
      .obj [("id", .str "color"), ("has_submenu", .bool true),
        ("sub_menu_items", .arr [.obj [("id", .str "full")], .obj []])],
      .obj [("id", .str "color")]])],
    .obj [("menus", .arr [.obj []])]])])]

/-- Clicks that change the category, and that ask for a date before and after it can be chosen. -/
def clicksAcrossCategories : List Click :=
  [.menu "category-1-menu-0", .menu "cut", .option "wash" none, .menu "color",
    .dateTime "2024-05-01" "09:00", .submenuItem "submenu-1" none,
    .dateTime "2024-05-01" "10:00"]

theorem consistent_clicksAcrossCategories :
    ∃ config, normalize .standard (.value salonWithRepeatedMenu) = .ok config ∧
      let sel := config.catalogue.clicks .empty clicksAcrossCategories
      sel.menuIds = ["cut", "color"] ∧ sel.submenuIds = [("color", "submenu-1")] ∧
        sel.selectedOptions = [("cut", ["wash"])] ∧ sel.desired = ⟨"2024-05-01", "10:00"⟩ ∧
        sel.Consistent config.catalogue := by
  refine ⟨_, rfl, by decide, by decide, by decide, by decide, ?_⟩
  exact @consistent_clicks .standard (.value salonWithRepeatedMenu) _ rfl clicksAcrossCategories

end SalonBooking
