import SalonBooking.Proofs.Booking.Posted
import SalonBooking.Proofs.Booking.Consistent

/-!
# Menus that are selected side by side

Unless categories may be crossed, several menus are booked together only in a
category that takes several.  A click tells categories apart by their ids, and
nothing makes these different: a category that takes one menu may have the id
of one that takes several.  Then a click on a menu of the second keeps the
selected menu of the first.

* `othersTakeSeveral_click`: that the menus behind the first are of categories
  which take several is kept by every click.
* `menus_combined_iff`: so it is with the first menu too, exactly if no two
  categories of one id that can be clicked differ in what they take.
* `single_menu_combined`: a form where they differ.
-/

namespace SalonBooking

namespace Catalogue

variable {catalogue : Catalogue} {sel : Selection} {menuId : String} {category : Category}
  {menu : Menu}

/-- A menu's id leads to a category of which several menus can be booked together. -/
def TakesSeveral (catalogue : Catalogue) (menuId : String) : Prop :=
  ∃ category menu, catalogue.findMenu? menuId = some (category, menu) ∧ category.mode = .multiple

instance (catalogue : Catalogue) (menuId : String) : Decidable (catalogue.TakesSeveral menuId) :=
  decidable_of_iff (∃ found ∈ catalogue.findMenu? menuId, found.1.mode = .multiple) <| by
    simp [TakesSeveral]

/-- All selected menus but the first are of categories that take several. -/
def OthersTakeSeveral (catalogue : Catalogue) (sel : Selection) : Prop :=
  ∀ id ∈ sel.menuIds.tail, catalogue.TakesSeveral id

/-- What takes one menu and what takes several never have one id, as far as menus of them are
found. -/
def ModesFollowIds (catalogue : Catalogue) : Prop :=
  ∀ id category menu, catalogue.findMenu? id = some (category, menu) →
    ∀ id' category' menu', catalogue.findMenu? id' = some (category', menu') →
      category.id = category'.id → category.mode = category'.mode

theorem takesSeveral_iff (hfound : catalogue.findMenu? menuId = some (category, menu)) :
    catalogue.TakesSeveral menuId ↔ category.mode = .multiple := by
  constructor
  · rintro ⟨category', menu', hfound', hmode⟩
    obtain ⟨rfl, rfl⟩ : category = category' ∧ menu = menu' := by simpa [hfound] using hfound'
    exact hmode
  · exact fun hmode => ⟨category, menu, hfound, hmode⟩

/-- Without crossing, only a category that takes several adds to the selection. -/
theorem isAdditive_iff (hcross : catalogue.crossCategory = false) :
    catalogue.isAdditive category = true ↔ category.mode = .multiple := by
  rw [isAdditive, hcross, Bool.false_or, Category.allowsMultiple, beq_iff_eq]

/-- Different ids are enough. -/
theorem modesFollowIds_of_nodup (h : (catalogue.categories.map Category.id).Nodup) :
    catalogue.ModesFollowIds := by
  intro id category menu hfound id' category' menu' hfound' hids
  have hmem := (mem_of_findMenu? hfound).1
  have hmem' := (mem_of_findMenu? hfound').1
  rw [List.inj_on_of_nodup_map h hmem hmem' hids]

/-! ## One click -/

/-- Dropping menus keeps the others in their order. -/
theorem menuIds_foldl_dropMenu (ids : List String) (sel : Selection) :
    (ids.foldl Selection.dropMenu sel).menuIds.Sublist sel.menuIds := by
  induction ids generalizing sel with
  | nil => exact List.Sublist.refl _
  | cons id rest ih => exact (ih (sel.dropMenu id)).trans List.filter_sublist

/-- What is left of the menus begins no later. -/
theorem OthersTakeSeveral.of_sublist {next : Selection} (h : catalogue.OthersTakeSeveral sel)
    (hsub : next.menuIds.Sublist sel.menuIds) : catalogue.OthersTakeSeveral next :=
  fun id hid => h id (hsub.tail.subset hid)

theorem OthersTakeSeveral.addMenu (h : catalogue.OthersTakeSeveral sel)
    (hnew : catalogue.TakesSeveral menuId) : catalogue.OthersTakeSeveral (sel.addMenu menuId) := by
  intro id hid
  rw [Selection.addMenu] at hid
  cases hmenus : sel.menuIds with
  | nil =>
    rw [hmenus] at hid
    exact absurd hid List.not_mem_nil
  | cons first others =>
    rw [hmenus, List.cons_append, List.tail_cons, List.mem_append] at hid
    rcases hid with hid | hid
    · exact h id (by rw [hmenus]; exact hid)
    · rw [List.mem_singleton.mp hid]
      exact hnew

theorem othersTakeSeveral_toggleMenu (hcross : catalogue.crossCategory = false)
    (hfound : catalogue.findMenu? menuId = some (category, menu))
    (h : catalogue.OthersTakeSeveral sel) :
    catalogue.OthersTakeSeveral (catalogue.toggleMenu category menuId sel) := by
  rw [toggleMenu]
  split
  · -- The selection is replaced, and one menu has no others.
    split
    · exact fun id hid => absurd hid List.not_mem_nil
    · exact fun id hid => absurd hid List.not_mem_nil
  · rename_i hadditive
    have hmode : category.mode = .multiple := (isAdditive_iff hcross).mp (by simpa using hadditive)
    split
    · exact h.of_sublist List.filter_sublist
    · rw [hcross]
      exact (h.of_sublist (menuIds_foldl_dropMenu _ sel)).addMenu ⟨category, menu, hfound, hmode⟩

/-- Clicks on anything but a menu leave the selected menus as they are. -/
theorem menuIds_click (c : Click) (hc : ∀ id, c ≠ .menu id) :
    (catalogue.click sel c).2.menuIds = sel.menuIds := by
  cases c with
  | menu id => exact absurd rfl (hc id)
  | submenuItem id menuId =>
    show (catalogue.selectItem id menuId sel).menuIds = _
    rw [selectItem]
    split <;> rfl
  | option id menuId =>
    show (catalogue.toggleOption id menuId sel).2.menuIds = _
    rw [toggleOption]
    split <;> rfl
  | dateTime date time =>
    show (catalogue.selectDateTime date time sel).2.menuIds = _
    rw [selectDateTime]
    split <;> rfl

theorem othersTakeSeveral_click (hcross : catalogue.crossCategory = false)
    (h : catalogue.OthersTakeSeveral sel) (c : Click) :
    catalogue.OthersTakeSeveral (catalogue.click sel c).2 := by
  by_cases hc : ∀ id, c ≠ .menu id
  · rw [OthersTakeSeveral, menuIds_click c hc]
    exact h
  · obtain ⟨id, rfl⟩ : ∃ id, c = .menu id := by simpa using hc
    show catalogue.OthersTakeSeveral (catalogue.selectMenu id sel)
    rw [selectMenu]
    split
    · rename_i category menu hfound
      exact othersTakeSeveral_toggleMenu hcross hfound h
    · exact h

/-! ## Runs of clicks -/

theorem othersTakeSeveral_clicks (hcross : catalogue.crossCategory = false)
    (h : catalogue.OthersTakeSeveral sel) (cs : List Click) :
    catalogue.OthersTakeSeveral (catalogue.clicks sel cs) := by
  induction cs generalizing sel with
  | nil => exact h
  | cons c rest ih => exact ih (othersTakeSeveral_click hcross h c)

theorem othersTakeSeveral_empty : catalogue.OthersTakeSeveral .empty :=
  fun _ hid => absurd hid List.not_mem_nil

/-- The first of several menus shares the id of its category with the others. -/
theorem takesSeveral_of_modesFollowIds (hcross : catalogue.crossCategory = false)
    (hmodes : catalogue.ModesFollowIds) (hsel : sel.Consistent catalogue)
    (hothers : catalogue.OthersTakeSeveral sel) (hseveral : 2 ≤ sel.menuIds.length) :
    ∀ id ∈ sel.menuIds, catalogue.TakesSeveral id := by
  obtain ⟨first, second, rest, hmenus⟩ : ∃ first second rest,
      sel.menuIds = first :: second :: rest := by
    match hmenus : sel.menuIds with
    | first :: second :: rest => exact ⟨first, second, rest, rfl⟩
    | [_] | [] => simp [hmenus] at hseveral
  obtain ⟨categoryId, hids⟩ := hsel.oneCategory hcross
  obtain ⟨category, menu, hfound, hid⟩ := hids first (by simp [hmenus])
  obtain ⟨category', menu', hfound', hid'⟩ := hids second (by simp [hmenus])
  have hsecond : category'.mode = .multiple :=
    (takesSeveral_iff hfound').mp (hothers second (by simp [hmenus]))
  have hfirst : catalogue.TakesSeveral first := by
    refine (takesSeveral_iff hfound).mpr ?_
    rw [hmodes first category menu hfound second category' menu' hfound' (hid.trans hid'.symm)]
    exact hsecond
  intro id hmem
  rw [hmenus, List.mem_cons] at hmem
  rcases hmem with rfl | hmem
  · exact hfirst
  · exact hothers id (by rw [hmenus]; exact hmem)

/-- A menu is selected first, and then one of a category that takes several and has the same id. -/
theorem clicks_of_same_id {id id' : String} {category' : Category} {menu' : Menu}
    (hfound : catalogue.findMenu? id = some (category, menu))
    (hfound' : catalogue.findMenu? id' = some (category', menu')) (hne : id ≠ id')
    (hids : category.id = category'.id) (hmode : category'.mode = .multiple) :
    (catalogue.clicks .empty [.menu id, .menu id']).menuIds = [id, id'] := by
  have hfirst : catalogue.selectMenu id .empty = Selection.empty.addMenu id := by
    simp only [selectMenu, hfound]
    exact toggleMenu_of_no_menus rfl rfl rfl
  have hadditive : catalogue.isAdditive category' = true := by
    rw [isAdditive, Category.allowsMultiple, hmode, beq_self_eq_true, Bool.or_true]
  have hsecond : catalogue.selectMenu id' (Selection.empty.addMenu id) =
      (Selection.empty.addMenu id).addMenu id' := by
    simp only [selectMenu, hfound']
    refine toggleMenu_of_additive hadditive ?_ (Or.inr fun other hother => ?_)
    · exact fun hmem => hne (List.mem_singleton.mp hmem).symm
    · rw [List.mem_singleton.mp hother]
      exact isInCategory_iff.mpr ⟨category, menu, hfound, hids⟩
  show (catalogue.selectMenu id' (catalogue.selectMenu id .empty)).menuIds = _
  rw [hfirst, hsecond]
  rfl

end Catalogue

/-- Where categories are not crossed, the menus behind the first are of categories that take
several, whatever is clicked.  All of several selected menus are, after every run of clicks, exactly
if no category that takes one menu shares its id with one that takes several. -/
theorem menus_combined_iff {limits : Limits} {source : Source} {config : FormConfig}
    (h : normalize limits source = .ok config) (hcross : config.catalogue.crossCategory = false) :
    (∀ cs, ∀ id ∈ (config.catalogue.clicks .empty cs).menuIds.tail,
      config.catalogue.TakesSeveral id) ∧
    ((∀ cs, 2 ≤ (config.catalogue.clicks .empty cs).menuIds.length →
        ∀ id ∈ (config.catalogue.clicks .empty cs).menuIds, config.catalogue.TakesSeveral id) ↔
      config.catalogue.ModesFollowIds) := by
  have hothers := Catalogue.othersTakeSeveral_clicks hcross Catalogue.othersTakeSeveral_empty
  refine ⟨hothers, ?_, ?_⟩
  · intro hall id category menu hfound id' category' menu' hfound' hids
    -- Two clicks select both menus, the one that takes several as the second.
    have hboth {id id' : String} {category category' : Category} {menu menu' : Menu}
        (hfound : config.catalogue.findMenu? id = some (category, menu))
        (hfound' : config.catalogue.findMenu? id' = some (category', menu'))
        (hids : category.id = category'.id) (hmode' : category'.mode = .multiple) :
        category.mode = .multiple := by
      by_cases hne : id = id'
      · subst hne
        obtain ⟨rfl, rfl⟩ : category = category' ∧ menu = menu' := by simpa [hfound] using hfound'
        exact hmode'
      · have hmenus := Catalogue.clicks_of_same_id hfound hfound' hne hids hmode'
        have hseveral := hall [.menu id, .menu id']
        rw [hmenus] at hseveral
        exact (Catalogue.takesSeveral_iff hfound).mp
          (hseveral (Nat.le_refl 2) id List.mem_cons_self)
    cases hmode : category.mode with
    | single =>
      cases hmode' : category'.mode with
      | single => rfl
      | multiple => rw [← hmode, hboth hfound hfound' hids hmode']
    | multiple => rw [hboth hfound' hfound hids.symm hmode]
  · intro hmodes cs hseveral
    have hsel := Selection.Consistent.clicks (wellFormed_of_normalize h).catalogue (.empty _) cs
    exact Catalogue.takesSeveral_of_modesFollowIds hcross hmodes hsel (hothers cs) hseveral

/-- The configuration of `salonWithRepeatedMenu`. -/
def repeatedMenuConfig : FormConfig :=
  .ofStored ⟨salonWithRepeatedMenu, salonWithRepeatedMenu, .null⟩

/-- Its categories have different ids: a click on a menu of the second takes that of the first away,
and the two that stay are of one category. -/
theorem menus_combined_repeatedMenu :
    normalize .standard (.value salonWithRepeatedMenu) = .ok repeatedMenuConfig ∧
      repeatedMenuConfig.catalogue.crossCategory = false ∧
      repeatedMenuConfig.catalogue.ModesFollowIds ∧
      (repeatedMenuConfig.catalogue.clicks .empty
        [.menu "category-1-menu-0", .menu "cut", .menu "color"]).menuIds = ["cut", "color"] ∧
      ∀ id ∈ ["cut", "color"], repeatedMenuConfig.catalogue.TakesSeveral id := by
  have hconfig : normalize .standard (.value salonWithRepeatedMenu) = .ok repeatedMenuConfig := rfl
  have hmodes : repeatedMenuConfig.catalogue.ModesFollowIds :=
    Catalogue.modesFollowIds_of_nodup (by decide)
  have hmenus : (repeatedMenuConfig.catalogue.clicks .empty
      [.menu "category-1-menu-0", .menu "cut", .menu "color"]).menuIds = ["cut", "color"] := by
    decide
  have hall := (menus_combined_iff hconfig (by decide)).2.mpr hmodes
    [.menu "category-1-menu-0", .menu "cut", .menu "color"]
  rw [hmenus] at hall
  exact ⟨hconfig, by decide, hmodes, hmenus, hall (by decide)⟩

/-- Two categories of one id: the first takes one menu, the second several. -/
def salonWithSharedId : Json :=
  .obj [("basic_info", .obj []), ("menu_structure", .obj [("categories", .arr [
    .obj [("id", .str "hair"), ("menus", .arr [.obj [("id", .str "perm")]])],
    .obj [("id", .str "hair"), ("selection_mode", .str "multiple"),
      ("menus", .arr [.obj [("id", .str "cut")]])]])])]

/-- A menu of a category that takes one menu stays selected next to another one. -/
theorem single_menu_combined :
    ∃ config, normalize .standard (.value salonWithSharedId) = .ok config ∧
      config.catalogue.crossCategory = false ∧
      (config.catalogue.clicks .empty [.menu "perm", .menu "cut"]).menuIds = ["perm", "cut"] ∧
      ¬ config.catalogue.TakesSeveral "perm" :=
  ⟨_, rfl, by decide, by decide, by decide⟩

end SalonBooking
