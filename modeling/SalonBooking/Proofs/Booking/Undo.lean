import SalonBooking.Proofs.Booking.Posted
import SalonBooking.Proofs.Booking.SideBySide

/-!
# Taking a menu back

In an additive category a click on a menu adds it and the next one takes it
away again.  What was chosen under the menu in between goes with it, and all
other menus keep their places, items and options.

Nothing is left behind because nothing was there before: a consistent selection
has no item and no options under a menu that is not selected.

* `Consistent.dropMenu_addMenu`: a menu that is dropped after it was added
  leaves the selection as it was.
* `dropMenu_click`, `dropMenu_clicks`: without the latest menu it does not matter
  what was clicked under it.
* `additive_click_undone`: two clicks on a menu, with any others in between.
-/

namespace SalonBooking

/-- A click chooses under one menu, which it names or which has what is clicked, or it chooses a
date. -/
def Click.IsUnder (catalogue : Catalogue) (menuId : String) : Click → Prop
  | .menu _ => False
  | .submenuItem id named =>
    named = some menuId ∨ named = none ∧ catalogue.hasItem id menuId = true
  | .option id named =>
    named = some menuId ∨ named = none ∧ catalogue.hasOption id menuId = true
  | .dateTime _ _ => True

theorem Click.IsUnder.ne_menu {catalogue : Catalogue} {menuId : String} {c : Click}
    (h : c.IsUnder catalogue menuId) (id : String) : c ≠ .menu id := by
  rintro rfl
  exact h

theorem filter_ne_of_notMem {id : String} {ids : List String} (h : id ∉ ids) :
    ids.filter (· ≠ id) = ids :=
  List.filter_eq_self.mpr fun _ hother => decide_eq_true fun heq => h (heq ▸ hother)

namespace Selection

variable {catalogue : Catalogue} {sel : Selection} {menuId : String}

theorem menuIds_dropMenu {before after : List String}
    (hmenus : sel.menuIds = before ++ menuId :: after) (hbefore : menuId ∉ before)
    (hafter : menuId ∉ after) : (sel.dropMenu menuId).menuIds = before ++ after := by
  show sel.menuIds.filter (· ≠ menuId) = before ++ after
  rw [hmenus, List.filter_append, List.filter_cons_of_neg (by simp), filter_ne_of_notMem hbefore,
    filter_ne_of_notMem hafter]

/-- A menu that is dropped after it was added leaves nothing behind. -/
theorem Consistent.dropMenu_addMenu (h : sel.Consistent catalogue) (hnew : menuId ∉ sel.menuIds) :
    (sel.addMenu menuId).dropMenu menuId = sel := by
  have hmenus : ((sel.addMenu menuId).dropMenu menuId).menuIds = sel.menuIds :=
    (menuIds_dropMenu rfl hnew List.not_mem_nil).trans (List.append_nil _)
  have hitems : sel.submenuIds.erase menuId = sel.submenuIds :=
    Assoc.erase_of_notMem fun hmem => hnew (h.keys_submenuIds_subset hmem)
  have hoptions : sel.selectedOptions.erase menuId = sel.selectedOptions :=
    Assoc.erase_of_notMem fun hmem => hnew (h.keys_selectedOptions_subset hmem)
  show { sel with
    menuIds := ((sel.addMenu menuId).dropMenu menuId).menuIds
    submenuIds := sel.submenuIds.erase menuId
    selectedOptions := sel.selectedOptions.erase menuId } = sel
  rw [hmenus, hitems, hoptions]

end Selection

namespace Catalogue

variable {catalogue : Catalogue} {sel : Selection} {menuId : String} {category : Category}
  {menu : Menu} {others : List String}

/-! ## The two clicks -/

/-- A click on a menu that is not selected adds it. -/
theorem selectMenu_of_notMem (hfound : catalogue.findMenu? menuId = some (category, menu))
    (hadditive : catalogue.isAdditive category = true) (hnew : menuId ∉ sel.menuIds)
    (htogether : catalogue.crossCategory = true ∨
      ∀ id ∈ sel.menuIds, catalogue.isInCategory category.id id = true) :
    catalogue.selectMenu menuId sel = sel.clearDates.addMenu menuId := by
  simp only [selectMenu, hfound]
  exact toggleMenu_of_additive hadditive hnew htogether

/-- A click on a selected menu drops it. -/
theorem selectMenu_of_mem (hfound : catalogue.findMenu? menuId = some (category, menu))
    (hadditive : catalogue.isAdditive category = true) (hselected : menuId ∈ sel.menuIds) :
    catalogue.selectMenu menuId sel = sel.clearDates.dropMenu menuId := by
  have hcontains : sel.clearDates.menuIds.contains menuId = true :=
    List.contains_iff_mem.mpr hselected
  simp only [selectMenu, hfound, toggleMenu, hadditive, hcontains, Bool.not_true,
    Bool.false_eq_true, if_false, if_true]

/-! ## Clicks in between -/

/-- What is clicked under the latest menu is not meant for another one. -/
theorem eq_of_find?_candidates {fits : String → Bool} {named : Option String} {id : String}
    (hmenus : sel.menuIds = others ++ [menuId])
    (hunder : named = some menuId ∨ named = none ∧ fits menuId = true)
    (hfind : (sel.candidates named).find? fits = some id) : id = menuId := by
  rcases hunder with rfl | ⟨rfl, hfits⟩
  · have hmem := List.mem_of_find?_eq_some hfind
    rw [Selection.candidates] at hmem
    split at hmem
    · exact List.mem_singleton.mp hmem
    · exact absurd hmem List.not_mem_nil
  · rw [Selection.candidates, hmenus, List.reverse_append, List.reverse_singleton,
      List.singleton_append, List.find?_cons_of_pos hfits] at hfind
    exact (Option.some.inj hfind).symm

/-- Without the latest menu and the dates it does not matter what is clicked under this menu. -/
theorem dropMenu_click (hmenus : sel.menuIds = others ++ [menuId]) {c : Click}
    (hc : c.IsUnder catalogue menuId) :
    (catalogue.click sel c).2.clearDates.dropMenu menuId = sel.clearDates.dropMenu menuId := by
  cases c with
  | menu id => exact False.elim hc
  | submenuItem id named =>
    show (catalogue.selectItem id named sel).clearDates.dropMenu menuId = _
    rw [selectItem]
    split
    · rename_i found hfind
      obtain rfl := eq_of_find?_candidates hmenus hc hfind
      simp only [Selection.dropMenu, Selection.clearDates, Assoc.erase_set]
    · rfl
  | option id named =>
    show (catalogue.toggleOption id named sel).2.clearDates.dropMenu menuId = _
    rw [toggleOption]
    split
    · rename_i found hfind
      obtain rfl := eq_of_find?_candidates hmenus hc hfind
      simp only [Selection.dropMenu, Selection.clearDates, Assoc.erase_set]
    · rfl
  | dateTime date time =>
    show (catalogue.selectDateTime date time sel).2.clearDates.dropMenu menuId = _
    rw [selectDateTime]
    split <;> rfl

theorem menuIds_clicks {cs : List Click} (hcs : ∀ c ∈ cs, ∀ id, c ≠ .menu id) :
    (catalogue.clicks sel cs).menuIds = sel.menuIds := by
  induction cs generalizing sel with
  | nil => rfl
  | cons c rest ih =>
    have hrest : (catalogue.clicks (catalogue.click sel c).2 rest).menuIds =
        (catalogue.click sel c).2.menuIds :=
      ih fun c hc => hcs c (List.mem_cons_of_mem _ hc)
    exact hrest.trans (menuIds_click c (hcs c List.mem_cons_self))

theorem dropMenu_clicks (hmenus : sel.menuIds = others ++ [menuId]) {cs : List Click}
    (hcs : ∀ c ∈ cs, c.IsUnder catalogue menuId) :
    (catalogue.clicks sel cs).clearDates.dropMenu menuId = sel.clearDates.dropMenu menuId := by
  induction cs generalizing sel with
  | nil => rfl
  | cons c rest ih =>
    have hc := hcs c List.mem_cons_self
    have hkept : (catalogue.click sel c).2.menuIds = others ++ [menuId] :=
      (menuIds_click c hc.ne_menu).trans hmenus
    exact (ih hkept fun c hc => hcs c (List.mem_cons_of_mem _ hc)).trans (dropMenu_click hmenus hc)

end Catalogue

/-- A click on a menu of an additive category adds it at the end and changes nothing else but the
dates, which are cleared, if it may stand next to what is selected.  A second click leads back to
what was there before.  Clicks on anything but menus in between keep their effect on all other menus
and lose it on this one, so that choices made under it alone are gone without a trace. -/
theorem additive_click_undone {limits : Limits} {source : Source} {config : FormConfig}
    (h : normalize limits source = .ok config) (cs : List Click) {menuId : String}
    {category : Category}
    {menu : Menu} (hfound : config.catalogue.findMenu? menuId = some (category, menu))
    (hadditive : config.catalogue.isAdditive category = true)
    (hnew : menuId ∉ (config.catalogue.clicks .empty cs).menuIds)
    (htogether : config.catalogue.crossCategory = true ∨
      ∀ id ∈ (config.catalogue.clicks .empty cs).menuIds,
        config.catalogue.isInCategory category.id id = true) :
    let sel := config.catalogue.clicks .empty cs
    let added := config.catalogue.selectMenu menuId sel
    added = { sel with menuIds := sel.menuIds ++ [menuId], desired := .empty, alternates := [] } ∧
    config.catalogue.selectMenu menuId added = { sel with desired := .empty, alternates := [] } ∧
    ∀ between : List Click, (∀ c ∈ between, ∀ id, c ≠ .menu id) →
      let later := config.catalogue.clicks added between
      let undone := config.catalogue.selectMenu menuId later
      undone.menuIds = sel.menuIds ∧ undone.desired = .empty ∧ undone.alternates = [] ∧
      undone.submenuIds.get? menuId = none ∧ undone.selectedOptions.get? menuId = none ∧
      (∀ id, id ≠ menuId → undone.submenuIds.get? id = later.submenuIds.get? id ∧
        undone.selectedOptions.get? id = later.selectedOptions.get? id) ∧
      ((∀ c ∈ between, c.IsUnder config.catalogue menuId) →
        undone = { sel with desired := .empty, alternates := [] }) := by
  intro sel added
  have hsel : sel.Consistent config.catalogue :=
    Selection.Consistent.clicks (wellFormed_of_normalize h).catalogue (.empty _) cs
  have hadded : added = sel.clearDates.addMenu menuId :=
    Catalogue.selectMenu_of_notMem hfound hadditive hnew htogether
  have hmenus : added.menuIds = sel.menuIds ++ [menuId] := by
    rw [hadded]
    rfl
  have hback : added.clearDates.dropMenu menuId = sel.clearDates := by
    rw [hadded]
    exact hsel.clearDates.dropMenu_addMenu hnew
  have hlast : menuId ∈ sel.menuIds ++ [menuId] :=
    List.mem_append_right _ (List.mem_singleton_self _)
  refine ⟨hadded, ?_, fun between hbetween => ?_⟩
  · rw [Catalogue.selectMenu_of_mem hfound hadditive (hmenus ▸ hlast)]
    exact hback
  · intro later undone
    have hlater : later.menuIds = sel.menuIds ++ [menuId] :=
      (Catalogue.menuIds_clicks hbetween).trans hmenus
    have hundone : undone = later.clearDates.dropMenu menuId :=
      Catalogue.selectMenu_of_mem hfound hadditive (hlater ▸ hlast)
    rw [hundone]
    refine ⟨?_, rfl, rfl, Assoc.get?_erase_self _ _, Assoc.get?_erase_self _ _,
      fun id hid => ?_, fun hunder => ?_⟩
    · exact (Selection.menuIds_dropMenu hlater hnew List.not_mem_nil).trans (List.append_nil _)
    · exact ⟨Assoc.get?_erase_of_ne hid _, Assoc.get?_erase_of_ne hid _⟩
    · exact (Catalogue.dropMenu_clicks hmenus hunder).trans hback

/-- Clicks that choose the submenu, its item and a date. -/
def clicksOnColor : List Click :=
  [.menu "color", .submenuItem "full" none, .dateTime "2024-05-01" "09:00"]

/-- Clicks that choose both options of the leaf, which only one of them names, and another date. -/
def clicksUnderCut : List Click :=
  [.option "wash" none, .option "dry" (some "cut"), .dateTime "2024-05-02" "10:00"]

/-- The leaf is added, its options are chosen, and after a second click only the date is missing. -/
theorem additive_click_undone_cut :
    ∃ config, normalize .standard (.value salonWithSubmenu) = .ok config ∧
      let sel := config.catalogue.clicks .empty clicksOnColor
      let later := config.catalogue.clicks (config.catalogue.selectMenu "cut" sel) clicksUnderCut
      sel.menuIds = ["color"] ∧ sel.submenuIds = [("color", "full")] ∧
      sel.desired = ⟨"2024-05-01", "09:00"⟩ ∧
      later.menuIds = ["color", "cut"] ∧ later.selectedOptions = [("cut", ["wash", "dry"])] ∧
      later.desired = ⟨"2024-05-02", "10:00"⟩ ∧
      config.catalogue.selectMenu "cut" later =
        { sel with desired := .empty, alternates := [] } := by
  have hsalon : normalize .standard (.value salonWithSubmenu) = .ok _ := rfl
  obtain ⟨-, -, hundone⟩ := @additive_click_undone _ _ _ hsalon clicksOnColor "cut" _ _ rfl
    (by decide) (by decide) (Or.inr (by decide))
  obtain ⟨-, -, -, -, -, -, hback⟩ := hundone clicksUnderCut
    (by simp [clicksUnderCut])
  refine ⟨_, hsalon, by decide, by decide, by decide, by decide, by decide, by decide, hback ?_⟩
  rw [clicksUnderCut, List.forall_mem_cons, List.forall_mem_cons, List.forall_mem_singleton]
  exact ⟨Or.inr ⟨rfl, by decide⟩, Or.inl rfl, trivial⟩

end SalonBooking
