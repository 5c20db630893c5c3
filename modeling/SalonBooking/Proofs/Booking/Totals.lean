import Mathlib.Algebra.BigOperators.Group.List.Basic
import Mathlib.Tactic.Abel
import SalonBooking.Proofs.Booking.Undo

/-!
# How clicks move the totals

The totals are a sum over the picks of a selection.  `totals_dropMenu` takes one
pick out of the sum, and two selections that are the same without a menu differ
in the pick of this menu only.  So every click moves the totals by what it
changes under one menu.

* `totals_dropMenu`: a menu that is dropped takes with it what it costs.
* `totals_addMenu`, `totals_selectMenu`: a menu that is added adds what it costs
  by itself.
* `toggleOption_of_has`, `selectItem_of_means`: what a click does that is meant for a menu.
* `totals_toggleOption`, `totals_toggleOption_off`: an option adds its own price and
  duration, or takes them away.
* `totals_selectItem_add`: an item that is chosen takes the place of the one that
  was chosen before; the first one adds its own too (`totals_selectItem`), since a
  submenu without an item costs nothing.
* `totals_follow_clicks`: all of it for every run of clicks.
-/

namespace SalonBooking

/-! ## Sums of totals -/

namespace Totals

@[simp] theorem price_add (a b : Totals) : (a + b).price = a.price + b.price := rfl

theorem eq_of {a b : Totals} (hprice : a.price = b.price) (hduration : a.duration = b.duration) :
    a = b := by
  cases a
  cases b
  rw [Totals.mk.injEq]
  exact ⟨hprice, hduration⟩

instance : Zero Totals := ⟨zero⟩

instance : AddCommMonoid Totals where
  add_assoc a b c := eq_of (Nat.add_assoc _ _ _) (Nat.add_assoc _ _ _)
  add_comm a b := eq_of (Nat.add_comm _ _) (Nat.add_comm _ _)
  zero_add a := eq_of (Nat.zero_add _) (Nat.zero_add _)
  add_zero a := eq_of (Nat.add_zero _) (Nat.add_zero _)
  nsmul := nsmulRec

instance : IsRightCancelAdd Totals where
  add_right_cancel _ _ _ h :=
    eq_of (Nat.add_right_cancel (congrArg price h)) (Nat.add_right_cancel (congrArg duration h))

instance : IsLeftCancelAdd Totals where
  add_left_cancel _ _ _ h :=
    eq_of (Nat.add_left_cancel (congrArg price h)) (Nat.add_left_cancel (congrArg duration h))

theorem sum_eq (ts : List Totals) : sum ts = ts.sum := rfl

end Totals

/-- What still waits for an item costs nothing. -/
theorem Pick.totals_of_unresolved {p : Pick} (h : p.isResolved = false) : p.totals = 0 := by
  obtain ⟨category, chosen⟩ := p
  cases chosen with
  | leaf menu options => exact Bool.noConfusion h
  | submenu menu item =>
    cases item with
    | none => rfl
    | some item => exact Bool.noConfusion h

/-- What some options of a leaf cost together. -/
def LeafMenu.extras (leaf : LeafMenu) (optionIds : List String) : Totals :=
  .sum ((optionIds.filterMap leaf.findOption?).map fun o => ⟨o.price, o.duration⟩)

namespace LeafMenu

variable {leaf : LeafMenu} {o : MenuOption} {optionIds : List String}

theorem extras_concat (hoption : leaf.findOption? o.id = some o) (optionIds : List String) :
    leaf.extras (optionIds ++ [o.id]) = leaf.extras optionIds + ⟨o.price, o.duration⟩ := by
  simp only [extras, List.filterMap_append, List.filterMap_cons, List.filterMap_nil, hoption,
    List.map_append, List.map_cons, List.map_nil, Totals.sum_eq, List.sum_append,
    List.sum_singleton]

/-- It does not matter in which order they were chosen. -/
theorem extras_perm {optionIds' : List String} (h : optionIds.Perm optionIds') :
    leaf.extras optionIds = leaf.extras optionIds' :=
  ((h.filterMap _).map _).sum_eq

theorem extras_filter (hoption : leaf.findOption? o.id = some o) (hnodup : optionIds.Nodup)
    (hmem : o.id ∈ optionIds) :
    leaf.extras (optionIds.filter (· ≠ o.id)) + ⟨o.price, o.duration⟩ = leaf.extras optionIds := by
  have hfilter : optionIds.filter (· ≠ o.id) = optionIds.erase o.id := by
    rw [hnodup.erase_eq_filter]
    simp only [decide_not, bne, BEq.beq]
  have hperm : optionIds.Perm (optionIds.filter (· ≠ o.id) ++ [o.id]) := by
    rw [hfilter]
    exact (List.perm_cons_erase hmem).trans (List.perm_append_singleton _ _).symm
  rw [extras_perm hperm, extras_concat hoption]

end LeafMenu

/-- A click on an option or an item is meant for a selected menu if it names the menu, or if it
names none and the menu is the latest selected one that fits. -/
def Selection.Means (sel : Selection) (fits : String → Bool) (named : Option String)
    (menuId : String) : Prop :=
  menuId ∈ sel.menuIds ∧
    (named = some menuId ∨ named = none ∧ sel.menuIds.reverse.find? fits = some menuId)

/-- Under a menu that is named and selected, its own options are the ones that count. -/
theorem Selection.isOptionSelected_some {sel : Selection} {menuId : String}
    (hselected : menuId ∈ sel.menuIds) (optionId : String) :
    sel.isOptionSelected optionId (some menuId) = (sel.optionsOf menuId).contains optionId := by
  rw [isOptionSelected, candidates, if_pos (List.contains_iff_mem.mpr hselected), List.any_cons,
    List.any_nil, Bool.or_false]

namespace Catalogue

variable {catalogue : Catalogue} {sel next : Selection} {menuId : String} {category : Category}
  {menu : Menu}

/-! ## One pick -/

theorem pick?_of_found (hfound : catalogue.findMenu? menuId = some (category, menu)) :
    catalogue.pick? sel menuId = some (pickOf sel category menu) := by
  rw [pick?, hfound]
  rfl

/-- What is chosen under one menu changes no pick of another. -/
theorem pick?_congr_of_ne {id : String}
    (hitem : next.submenuIds.get? id = sel.submenuIds.get? id)
    (hoptions : next.optionsOf id = sel.optionsOf id) :
    catalogue.pick? next id = catalogue.pick? sel id := by
  cases hfound : catalogue.findMenu? id with
  | none => rw [pick?, pick?, hfound, Option.map_none, Option.map_none]
  | some found =>
    obtain ⟨category, menu⟩ := found
    have hid := findMenu?_id hfound
    rw [pick?_of_found hfound, pick?_of_found hfound]
    cases menu with
    | leaf menu => simp only [pickOf, show menu.id = id from hid, hoptions]
    | submenu menu => simp only [pickOf, show menu.id = id from hid, hitem]

/-- A menu that is dropped takes its own totals with it. -/
theorem totals_dropMenu (hfound : catalogue.findMenu? menuId = some (category, menu))
    (hnodup : sel.menuIds.Nodup) (hselected : menuId ∈ sel.menuIds) :
    catalogue.totals (sel.dropMenu menuId) + (pickOf sel category menu).totals =
      catalogue.totals sel := by
  obtain ⟨before, after, hsplit⟩ := List.append_of_mem hselected
  rw [hsplit, List.nodup_append, List.nodup_cons] at hnodup
  obtain ⟨-, ⟨hafter, -⟩, hdisjoint⟩ := hnodup
  have hbefore : menuId ∉ before := fun hmem => hdisjoint _ hmem _ List.mem_cons_self rfl
  have hothers (ids : List String) (hids : menuId ∉ ids) :
      ids.filterMap (catalogue.pick? (sel.dropMenu menuId)) =
        ids.filterMap (catalogue.pick? sel) := by
    refine List.filterMap_congr fun id hid => ?_
    have hne : id ≠ menuId := fun heq => hids (heq ▸ hid)
    refine pick?_congr_of_ne (Assoc.get?_erase_of_ne hne _) ?_
    show (sel.selectedOptions.erase menuId |>.get? id).getD [] =
      (sel.selectedOptions.get? id).getD []
    rw [Assoc.get?_erase_of_ne hne]
  simp only [totals, picks, Selection.menuIds_dropMenu hsplit hbefore hafter, hsplit,
    List.filterMap_append, List.filterMap_cons, pick?_of_found hfound, hothers before hbefore,
    hothers after hafter, Totals.sum_eq, List.map_append, List.map_cons, List.sum_append,
    List.sum_cons]
  abel

/-- Two selections that are the same without a menu differ in the totals of this menu. -/
theorem totals_of_dropMenu_eq (hfound : catalogue.findMenu? menuId = some (category, menu))
    (hnodup : sel.menuIds.Nodup) (hselected : menuId ∈ sel.menuIds)
    (hmenus : next.menuIds = sel.menuIds)
    (hsame : next.dropMenu menuId = sel.dropMenu menuId) :
    catalogue.totals next + (pickOf sel category menu).totals =
      catalogue.totals sel + (pickOf next category menu).totals := by
  have hnext := totals_dropMenu hfound (hmenus ▸ hnodup) (hmenus ▸ hselected)
  rw [← hnext, ← totals_dropMenu hfound hnodup hselected, hsame, add_right_comm]

/-! ## Menus -/

/-- A menu that is added adds its pick. -/
theorem totals_addMenu (hfound : catalogue.findMenu? menuId = some (category, menu)) :
    catalogue.totals (sel.addMenu menuId) =
      catalogue.totals sel + (pickOf sel category menu).totals := by
  have hpick : catalogue.pick? (sel.addMenu menuId) = catalogue.pick? sel :=
    funext fun id => pick?_congr_of_ne rfl rfl
  simp only [totals, picks, hpick]
  rw [Selection.addMenu, List.filterMap_append, List.map_append, Totals.sum_eq, List.sum_append,
    List.filterMap_cons, pick?_of_found hfound]
  simp [Totals.sum_eq]

/-- Nothing is chosen under a menu that is not selected. -/
theorem optionsOf_of_notMem (h : sel.Consistent catalogue) (hnew : menuId ∉ sel.menuIds) :
    sel.optionsOf menuId = [] := by
  rw [Selection.optionsOf,
    Assoc.get?_eq_none_of_notMem fun hmem => hnew (h.keys_selectedOptions_subset hmem)]
  rfl

/-- A leaf by itself costs what it says. -/
theorem totals_pickOf_leaf {leaf : LeafMenu} (h : sel.optionsOf leaf.id = []) :
    (pickOf sel category (.leaf leaf)).totals = ⟨leaf.price, leaf.duration⟩ := by
  simp only [pickOf, Pick.totals, h, List.filterMap_nil, List.map_nil]
  exact add_zero (⟨leaf.price, leaf.duration⟩ : Totals)

/-- A menu that a click adds was not selected before. -/
theorem notMem_of_concat (hsel : sel.Consistent catalogue)
    (hadded : (catalogue.selectMenu menuId sel).menuIds = sel.menuIds ++ [menuId]) :
    menuId ∉ sel.menuIds := by
  have hnodup := (hsel.selectMenu menuId).nodup
  rw [hadded, List.nodup_append] at hnodup
  exact fun hmem => hnodup.2.2 _ hmem _ (List.mem_singleton_self _) rfl

/-- A click on a menu that is not selected adds it if all others stay, and does nothing else to
menus, items and options. -/
theorem selectMenu_of_kept (hfound : catalogue.findMenu? menuId = some (category, menu))
    (hsel : sel.Consistent catalogue) (hnew : menuId ∉ sel.menuIds)
    (hkept : ∀ id ∈ sel.menuIds, id ∈ (catalogue.selectMenu menuId sel).menuIds) :
    catalogue.selectMenu menuId sel = sel.clearDates.addMenu menuId := by
  have hne (id : String) (hid : id ∈ sel.menuIds) : id ≠ menuId := fun heq => hnew (heq ▸ hid)
  by_cases hadditive : catalogue.isAdditive category = true
  · refine selectMenu_of_notMem hfound hadditive hnew ?_
    by_cases hcross : catalogue.crossCategory = true
    · exact Or.inl hcross
    · -- A menu that stays has not been dropped with those of other categories.
      refine Or.inr fun id hid => ?_
      have hcontains : sel.clearDates.menuIds.contains menuId = false := by
        simpa [Selection.clearDates] using hnew
      have hmem := hkept id hid
      simp only [selectMenu, hfound, toggleMenu, hadditive, hcontains, hcross, Bool.not_true,
        Bool.false_eq_true, if_false] at hmem
      rcases List.mem_append.mp hmem with hmem | hmem
      · obtain ⟨-, -, hin⟩ := hsel.clearDates.dropOtherCategories rfl category.id
        exact ((hin id).mp hmem).2
      · exact absurd (List.mem_singleton.mp hmem) (hne id hid)
  · have hnone : sel.menuIds = [] := by
      refine List.eq_nil_iff_forall_not_mem.mpr fun id hid => hne id hid ?_
      have hmem := hkept id hid
      simp only [selectMenu, hfound, toggleMenu, hadditive, Bool.not_false, if_true] at hmem
      split at hmem
      · exact absurd hmem List.not_mem_nil
      · exact List.mem_singleton.mp hmem
    have hitems : sel.submenuIds = [] :=
      List.map_eq_nil_iff.mp (List.subset_nil.mp (hnone ▸ hsel.keys_submenuIds_subset))
    have hoptions : sel.selectedOptions = [] :=
      List.map_eq_nil_iff.mp (List.subset_nil.mp (hnone ▸ hsel.keys_selectedOptions_subset))
    simp only [selectMenu, hfound]
    exact toggleMenu_of_no_menus hnone hitems hoptions

theorem totals_clearDates (sel : Selection) :
    catalogue.totals sel.clearDates = catalogue.totals sel := by
  have hpicks : catalogue.picks sel.clearDates = catalogue.picks sel := picks_congr rfl rfl rfl
  rw [totals, totals, hpicks]

/-- A leaf that is added adds what it costs by itself. -/
theorem totals_selectMenu_of_kept {leaf : LeafMenu}
    (hfound : catalogue.findMenu? menuId = some (category, .leaf leaf))
    (hsel : sel.Consistent catalogue) (hnew : menuId ∉ sel.menuIds)
    (hkept : ∀ id ∈ sel.menuIds, id ∈ (catalogue.selectMenu menuId sel).menuIds) :
    catalogue.totals (catalogue.selectMenu menuId sel) =
      catalogue.totals sel + ⟨leaf.price, leaf.duration⟩ := by
  have hid : leaf.id = menuId := findMenu?_id hfound
  have hbare : sel.clearDates.optionsOf leaf.id = [] := by
    rw [hid]
    exact optionsOf_of_notMem hsel.clearDates hnew
  rw [selectMenu_of_kept hfound hsel hnew hkept, totals_addMenu hfound, totals_pickOf_leaf hbare,
    totals_clearDates]

/-- A leaf that is added to the selected menus adds what it costs by itself. -/
theorem totals_selectMenu {leaf : LeafMenu}
    (hfound : catalogue.findMenu? menuId = some (category, .leaf leaf))
    (hsel : sel.Consistent catalogue)
    (hadded : (catalogue.selectMenu menuId sel).menuIds = sel.menuIds ++ [menuId]) :
    catalogue.totals (catalogue.selectMenu menuId sel) =
      catalogue.totals sel + ⟨leaf.price, leaf.duration⟩ :=
  totals_selectMenu_of_kept hfound hsel (notMem_of_concat hsel hadded)
    fun _ hid => hadded ▸ List.mem_append_left _ hid

/-- A click on a selected menu takes away what the menu costs. -/
theorem totals_selectMenu_of_mem (hfound : catalogue.findMenu? menuId = some (category, menu))
    (hadditive : catalogue.isAdditive category = true) (hsel : sel.Consistent catalogue)
    (hselected : menuId ∈ sel.menuIds) :
    catalogue.totals (catalogue.selectMenu menuId sel) + (pickOf sel category menu).totals =
      catalogue.totals sel := by
  have hdates : pickOf sel.clearDates category menu = pickOf sel category menu := by
    cases menu <;> rfl
  rw [selectMenu_of_mem hfound hadditive hselected, ← hdates,
    totals_dropMenu hfound hsel.clearDates.nodup hselected, totals_clearDates]

/-! ## Options and items -/

theorem find?_candidates {fits : String → Bool} {named : Option String}
    (hmeant : sel.Means fits named menuId) (hfits : fits menuId = true) :
    (sel.candidates named).find? fits = some menuId := by
  obtain ⟨hselected, rfl | ⟨rfl, hlatest⟩⟩ := hmeant
  · rw [Selection.candidates, if_pos (List.contains_iff_mem.mpr hselected),
      List.find?_cons_of_pos hfits]
  · exact hlatest

section

variable {named : Option String} {leaf : LeafMenu} {o : MenuOption} {submenu : SubmenuMenu}
  {item : SubmenuItem}

/-- An option is flipped under the menu that the click is meant for. -/
theorem toggleOption_of_has (hfound : catalogue.findMenu? menuId = some (category, .leaf leaf))
    (hoption : leaf.findOption? o.id = some o)
    (hmeant : sel.Means (catalogue.hasOption o.id) named menuId) :
    catalogue.toggleOption o.id named sel =
      ((flipOption o.id (sel.optionsOf menuId)).1,
        sel.withOptions menuId (flipOption o.id (sel.optionsOf menuId)).2) := by
  have hhas : catalogue.hasOption o.id menuId = true :=
    hasOption_iff.mpr ⟨category, leaf, hfound, by rw [hoption]; rfl⟩
  rw [toggleOption, find?_candidates hmeant hhas]
  rfl

theorem flipOption_of_notMem {optionId : String} {options : List String} (h : optionId ∉ options) :
    flipOption optionId options = (true, options ++ [optionId]) := by
  rw [flipOption, if_neg (by simpa using h)]

theorem flipOption_of_mem {optionId : String} {options : List String} (h : optionId ∈ options) :
    flipOption optionId options = (false, options.filter (· ≠ optionId)) := by
  rw [flipOption, if_pos (by simpa using h)]

/-- Whether an option is now selected is what the flip answers. -/
theorem contains_flipOption (optionId : String) (options : List String) :
    (flipOption optionId options).2.contains optionId = (flipOption optionId options).1 := by
  by_cases hmem : optionId ∈ options
  · simp [flipOption_of_mem hmem]
  · simp [flipOption_of_notMem hmem]

/-- Switching an option off undoes switching it on. -/
theorem flipOption_concat {optionId : String} {options : List String} (h : optionId ∉ options) :
    flipOption optionId (options ++ [optionId]) = (false, options) := by
  have hmem : optionId ∈ options ++ [optionId] :=
    List.mem_append_right _ (List.mem_singleton_self optionId)
  rw [flipOption_of_mem hmem, List.filter_append, filter_ne_of_notMem h, List.filter_singleton,
    decide_eq_false (not_not_intro rfl), Bool.cond_false, List.append_nil]

/-- An option is switched on under the menu that the click is meant for. -/
theorem toggleOption_of_means (hfound : catalogue.findMenu? menuId = some (category, .leaf leaf))
    (hoption : leaf.findOption? o.id = some o)
    (hmeant : sel.Means (catalogue.hasOption o.id) named menuId)
    (hnew : o.id ∉ sel.optionsOf menuId) :
    (catalogue.toggleOption o.id named sel).2 =
      sel.withOptions menuId (sel.optionsOf menuId ++ [o.id]) := by
  rw [toggleOption_of_has hfound hoption hmeant, flipOption_of_notMem hnew]

/-- After a click on an option of a named menu it is selected exactly if the click says so. -/
theorem isOptionSelected_toggleOption
    (hfound : catalogue.findMenu? menuId = some (category, .leaf leaf))
    (hoption : leaf.findOption? o.id = some o) (hselected : menuId ∈ sel.menuIds) :
    (catalogue.toggleOption o.id (some menuId) sel).2.isOptionSelected o.id (some menuId) =
      (catalogue.toggleOption o.id (some menuId) sel).1 := by
  have hkept (options : List String) : menuId ∈ (sel.withOptions menuId options).menuIds :=
    hselected
  rw [toggleOption_of_has hfound hoption ⟨hselected, Or.inl rfl⟩,
    Selection.isOptionSelected_some (hkept _), Selection.optionsOf_withOptions]
  exact contains_flipOption o.id (sel.optionsOf menuId)

/-- An option that is switched on and off again leaves the options as they were. -/
theorem optionsOf_toggleOption_toggleOption
    (hfound : catalogue.findMenu? menuId = some (category, .leaf leaf))
    (hoption : leaf.findOption? o.id = some o) (hselected : menuId ∈ sel.menuIds)
    (hnew : o.id ∉ sel.optionsOf menuId) :
    (catalogue.toggleOption o.id (some menuId)
      (catalogue.toggleOption o.id (some menuId) sel).2).2.optionsOf menuId =
        sel.optionsOf menuId := by
  have hkept (options : List String) : (sel.withOptions menuId options).Means
      (catalogue.hasOption o.id) (some menuId) menuId := ⟨hselected, Or.inl rfl⟩
  rw [toggleOption_of_means hfound hoption ⟨hselected, Or.inl rfl⟩ hnew,
    toggleOption_of_has hfound hoption (hkept _), Selection.optionsOf_withOptions,
    Selection.optionsOf_withOptions, flipOption_concat hnew]

/-- An item is chosen under the menu that the click is meant for. -/
theorem selectItem_of_means
    (hfound : catalogue.findMenu? menuId = some (category, .submenu submenu))
    (hitem : submenu.findItem? item.id = some item)
    (hmeant : sel.Means (catalogue.hasItem item.id) named menuId) :
    catalogue.selectItem item.id named sel =
      { sel with submenuIds := Assoc.set menuId item.id sel.submenuIds } := by
  have hhas : catalogue.hasItem item.id menuId = true :=
    hasItem_iff.mpr ⟨category, submenu, hfound, by rw [hitem]; rfl⟩
  rw [selectItem, find?_candidates hmeant hhas]

/-- Other options under a leaf change the totals as they change those of the options. -/
theorem totals_withOptions (hfound : catalogue.findMenu? menuId = some (category, .leaf leaf))
    (hnodup : sel.menuIds.Nodup) (hselected : menuId ∈ sel.menuIds) (optionIds : List String) :
    catalogue.totals (sel.withOptions menuId optionIds) + leaf.extras (sel.optionsOf menuId) =
      catalogue.totals sel + leaf.extras optionIds := by
  have hid : leaf.id = menuId := findMenu?_id hfound
  have htotals (s : Selection) : (pickOf s category (.leaf leaf)).totals =
      ⟨leaf.price, leaf.duration⟩ + leaf.extras (s.optionsOf menuId) := by
    rw [← hid]
    rfl
  have hsame : (sel.withOptions menuId optionIds).dropMenu menuId = sel.dropMenu menuId := by
    simp only [Selection.dropMenu, Selection.withOptions, Assoc.erase_set]
  have hmenus : (sel.withOptions menuId optionIds).menuIds = sel.menuIds := rfl
  have hmoved := totals_of_dropMenu_eq hfound hnodup hselected hmenus hsame
  rw [htotals, htotals, Selection.optionsOf_withOptions, add_left_comm,
    add_left_comm (catalogue.totals sel)] at hmoved
  exact add_left_cancel hmoved

/-- An option that is switched on adds its price and its duration. -/
theorem totals_toggleOption (hfound : catalogue.findMenu? menuId = some (category, .leaf leaf))
    (hoption : leaf.findOption? o.id = some o) (hsel : sel.Consistent catalogue)
    (hmeant : sel.Means (catalogue.hasOption o.id) named menuId)
    (hnew : o.id ∉ sel.optionsOf menuId) :
    catalogue.totals (catalogue.toggleOption o.id named sel).2 =
      catalogue.totals sel + ⟨o.price, o.duration⟩ := by
  have hmoved := totals_withOptions hfound hsel.nodup hmeant.1 (sel.optionsOf menuId ++ [o.id])
  rw [LeafMenu.extras_concat hoption, ← add_assoc, add_right_comm] at hmoved
  rw [toggleOption_of_means hfound hoption hmeant hnew]
  exact add_right_cancel hmoved

/-- An option that is switched off takes its price and its duration away. -/
theorem totals_toggleOption_off (hfound : catalogue.findMenu? menuId = some (category, .leaf leaf))
    (hoption : leaf.findOption? o.id = some o) (hsel : sel.Consistent catalogue)
    (hmeant : sel.Means (catalogue.hasOption o.id) named menuId)
    (hchosen : o.id ∈ sel.optionsOf menuId) :
    catalogue.totals (catalogue.toggleOption o.id named sel).2 + ⟨o.price, o.duration⟩ =
      catalogue.totals sel := by
  have hmoved := totals_withOptions hfound hsel.nodup hmeant.1
    ((sel.optionsOf menuId).filter (· ≠ o.id))
  rw [← LeafMenu.extras_filter hoption (hsel.nodup_optionsOf menuId) hchosen,
    add_comm (leaf.extras _),
    ← add_assoc] at hmoved
  rw [toggleOption_of_has hfound hoption hmeant, flipOption_of_mem hchosen]
  exact add_right_cancel hmoved

/-- The pick of a submenu of which an item was chosen. -/
theorem pickOf_selectItem (hfound : catalogue.findMenu? menuId = some (category, .submenu submenu))
    (hitem : submenu.findItem? item.id = some item) (hne : item.id ≠ "")
    (hmeant : sel.Means (catalogue.hasItem item.id) named menuId) :
    pickOf (catalogue.selectItem item.id named sel) category (.submenu submenu) =
      ⟨category, .submenu submenu (some item)⟩ := by
  have hid : submenu.id = menuId := findMenu?_id hfound
  simp only [selectItem_of_means hfound hitem hmeant, pickOf, hid, Assoc.get?_set_self,
    Option.bind_some, String.isEmpty_iff, if_neg hne, hitem]

/-- An item that is chosen takes the place of what was chosen before. -/
theorem totals_selectItem_add
    (hfound : catalogue.findMenu? menuId = some (category, .submenu submenu))
    (hitem : submenu.findItem? item.id = some item) (hne : item.id ≠ "")
    (hsel : sel.Consistent catalogue)
    (hmeant : sel.Means (catalogue.hasItem item.id) named menuId) :
    catalogue.totals (catalogue.selectItem item.id named sel) +
        (pickOf sel category (.submenu submenu)).totals =
      catalogue.totals sel + ⟨item.price, item.duration⟩ := by
  have hset := selectItem_of_means hfound hitem hmeant
  have hsame : (catalogue.selectItem item.id named sel).dropMenu menuId = sel.dropMenu menuId := by
    simp only [hset, Selection.dropMenu, Assoc.erase_set]
  have hmoved := totals_of_dropMenu_eq hfound hsel.nodup hmeant.1 (by rw [hset]) hsame
  rwa [pickOf_selectItem hfound hitem hne hmeant] at hmoved

/-- A submenu costs what the item costs that is chosen under it. -/
theorem totals_pickOf_submenu (hcatalogue : catalogue.WellFormed)
    (hfound : catalogue.findMenu? menuId = some (category, .submenu submenu)) (sel : Selection) :
    (pickOf sel category (.submenu submenu)).totals =
      ((sel.submenuIds.get? menuId).bind submenu.findItem?).elim 0
        fun item => ⟨item.price, item.duration⟩ := by
  have hid : submenu.id = menuId := findMenu?_id hfound
  simp only [pickOf, Pick.totals, hid]
  cases sel.submenuIds.get? menuId with
  | none => rfl
  | some itemId =>
    simp only [Option.bind_some]
    cases hitem : submenu.findItem? itemId with
    | none =>
      rw [ite_self]
      rfl
    | some item =>
      have hne : itemId ≠ "" :=
        Selection.Consistent.itemId_ne_empty hcatalogue hfound (by rw [hitem]; rfl)
      rw [if_neg (by simpa using hne)]
      rfl

/-- An item that is chosen under a selected submenu without one adds its price and its duration. -/
theorem totals_selectItem (hfound : catalogue.findMenu? menuId = some (category, .submenu submenu))
    (hitem : submenu.findItem? item.id = some item) (hne : item.id ≠ "")
    (hsel : sel.Consistent catalogue) (hmeant : sel.Means (catalogue.hasItem item.id) named menuId)
    (hopen : (pickOf sel category (.submenu submenu)).isResolved = false) :
    catalogue.totals (catalogue.selectItem item.id named sel) =
      catalogue.totals sel + ⟨item.price, item.duration⟩ := by
  have hmoved := totals_selectItem_add hfound hitem hne hsel hmeant
  rwa [Pick.totals_of_unresolved hopen, add_zero] at hmoved

end

end Catalogue

/-- Every click moves the totals by what was clicked.

* An option that is switched on adds its price and its duration, one that is switched off takes them
  away; the answer says which of the two it was, and an option that is switched on and off again
  leaves the options of the menu as they were.
* An item adds its own and takes away those of the item that was chosen before.
* A click on a selected menu of an additive category takes away what the menu costs, and a click
  on a leaf that is not selected adds what the leaf costs, if it drops no other menu. -/
theorem totals_follow_clicks {limits : Limits} {source : Source} {config : FormConfig}
    (h : normalize limits source = .ok config) (cs : List Click) :
    let catalogue := config.catalogue
    let sel := catalogue.clicks .empty cs
    (∀ menuId ∈ sel.menuIds, ∀ category leaf,
      catalogue.findMenu? menuId = some (category, .leaf leaf) →
      ∀ optionId o, leaf.findOption? optionId = some o →
        let toggled := catalogue.toggleOption optionId (some menuId) sel
        (toggled.1 = true ↔ optionId ∉ sel.optionsOf menuId) ∧
        toggled.2.isOptionSelected optionId (some menuId) = toggled.1 ∧
        (toggled.1 = true →
          catalogue.totals toggled.2 = catalogue.totals sel + ⟨o.price, o.duration⟩ ∧
          (catalogue.toggleOption optionId (some menuId) toggled.2).2.optionsOf menuId =
            sel.optionsOf menuId) ∧
        (toggled.1 = false →
          catalogue.totals toggled.2 + ⟨o.price, o.duration⟩ = catalogue.totals sel)) ∧
    (∀ menuId ∈ sel.menuIds, ∀ category submenu,
      catalogue.findMenu? menuId = some (category, .submenu submenu) →
      ∀ itemId item, submenu.findItem? itemId = some item →
        catalogue.totals (catalogue.selectItem itemId (some menuId) sel) +
            ((sel.submenuIds.get? menuId).bind submenu.findItem?).elim 0
              (fun previous => ⟨previous.price, previous.duration⟩) =
          catalogue.totals sel + ⟨item.price, item.duration⟩) ∧
    (∀ menuId ∈ sel.menuIds, ∀ category menu,
      catalogue.findMenu? menuId = some (category, menu) →
      catalogue.isAdditive category = true →
        catalogue.totals (catalogue.selectMenu menuId sel) +
            (Catalogue.pickOf sel category menu).totals =
          catalogue.totals sel) ∧
    (∀ menuId, menuId ∉ sel.menuIds → ∀ category leaf,
      catalogue.findMenu? menuId = some (category, .leaf leaf) →
      (∀ id ∈ sel.menuIds, id ∈ (catalogue.selectMenu menuId sel).menuIds) →
        catalogue.totals (catalogue.selectMenu menuId sel) =
          catalogue.totals sel + ⟨leaf.price, leaf.duration⟩) := by
  intro catalogue sel
  have hcatalogue : catalogue.WellFormed := (wellFormed_of_normalize h).catalogue
  have hsel : sel.Consistent catalogue := Selection.Consistent.clicks hcatalogue (.empty _) cs
  refine ⟨?_, ?_, ?_, ?_⟩
  · intro menuId hselected category leaf hfound optionId o hoption
    obtain rfl : o.id = optionId := by simpa using List.find?_some hoption
    have hmeant : sel.Means (catalogue.hasOption o.id) (some menuId) menuId :=
      ⟨hselected, Or.inl rfl⟩
    have htoggled := Catalogue.toggleOption_of_has hfound hoption hmeant
    have hasked := Catalogue.isOptionSelected_toggleOption hfound hoption hselected
    by_cases hchosen : o.id ∈ sel.optionsOf menuId
    · have hoff := Catalogue.totals_toggleOption_off hfound hoption hsel hmeant hchosen
      have hreply : (catalogue.toggleOption o.id (some menuId) sel).1 = false := by
        rw [htoggled, Catalogue.flipOption_of_mem hchosen]
      exact ⟨by simp [hreply, hchosen], hasked, fun hon => absurd hon (by simp [hreply]),
        fun _ => hoff⟩
    · have hon := Catalogue.totals_toggleOption hfound hoption hsel hmeant hchosen
      have hagain := Catalogue.optionsOf_toggleOption_toggleOption hfound hoption hselected hchosen
      have hreply : (catalogue.toggleOption o.id (some menuId) sel).1 = true := by
        rw [htoggled, Catalogue.flipOption_of_notMem hchosen]
      exact ⟨by simp [hreply, hchosen], hasked, fun _ => ⟨hon, hagain⟩,
        fun hoff => absurd hoff (by simp [hreply])⟩
  · intro menuId hselected category submenu hfound itemId item hitem
    obtain rfl : item.id = itemId := by simpa using List.find?_some hitem
    have hne : item.id ≠ "" :=
      Selection.Consistent.itemId_ne_empty hcatalogue hfound (by rw [hitem]; rfl)
    rw [← Catalogue.totals_pickOf_submenu hcatalogue hfound]
    exact Catalogue.totals_selectItem_add hfound hitem hne hsel ⟨hselected, Or.inl rfl⟩
  · intro menuId hselected category menu hfound hadditive
    exact Catalogue.totals_selectMenu_of_mem hfound hadditive hsel hselected
  · intro menuId hnew category leaf hfound hkept
    exact Catalogue.totals_selectMenu_of_kept hfound hsel hnew hkept

/-- A category that takes several menus: two leaves, one with options, and a submenu. -/
def salonWithExtras : Json :=
  .obj [("menu_structure", .obj [("categories", .arr [
    .obj [("id", .str "hair"), ("selection_mode", .str "multiple"), ("menus", .arr [
      .obj [("id", .str "cut"), ("price", .int 4000), ("duration", .int 60),
        ("options", .arr [
          .obj [("id", .str "wash"), ("price", .int 500), ("duration", .int 10)],
          .obj [("id", .str "dry"), ("price", .int 800), ("duration", .int 15)]])],
      .obj [("id", .str "color"), ("has_submenu", .bool true), ("sub_menu_items", .arr [
        .obj [("id", .str "root"), ("price", .int 5000), ("duration", .int 70)],
        .obj [("id", .str "full"), ("price", .int 7000), ("duration", .int 90)]])],
      .obj [("id", .str "bang"), ("price", .int 1000), ("duration", .int 20)]])]])])]

/-- Its configuration. -/
def extrasConfig : FormConfig :=
  .ofStored ⟨salonWithExtras, salonWithExtras, .null⟩

/-- Clicks that choose the leaf with an option and the submenu with an item. -/
def clicksOnExtras : List Click :=
  [.menu "cut", .option "wash" none, .menu "color", .submenuItem "root" none]

/-- From 9500 yen and 140 minutes: the other option is added, the first one taken away, the item is
changed for another one, the first leaf is taken back, and the second one is added. -/
theorem totals_follow_clicks_extras :
    normalize .standard (.value salonWithExtras) = .ok extrasConfig ∧
      let catalogue := extrasConfig.catalogue
      let sel := catalogue.clicks .empty clicksOnExtras
      catalogue.totals sel = ⟨9500, 140⟩ ∧
      catalogue.totals (catalogue.toggleOption "dry" (some "cut") sel).2 = ⟨10300, 155⟩ ∧
      catalogue.totals (catalogue.toggleOption "wash" (some "cut") sel).2 = ⟨9000, 130⟩ ∧
      catalogue.totals (catalogue.selectItem "full" (some "color") sel) = ⟨11500, 160⟩ ∧
      catalogue.totals (catalogue.selectMenu "cut" sel) = ⟨5000, 70⟩ ∧
      catalogue.totals (catalogue.selectMenu "bang" sel) = ⟨10500, 160⟩ := by
  have hconfig : normalize .standard (.value salonWithExtras) = .ok extrasConfig := rfl
  obtain ⟨hoptions, hitems, htaken, hadded⟩ := totals_follow_clicks hconfig clicksOnExtras
  have htotals : extrasConfig.catalogue.totals
      (extrasConfig.catalogue.clicks .empty clicksOnExtras) = ⟨9500, 140⟩ := by decide +kernel
  let wash : MenuOption := ⟨"wash", "", 500, 10, false, ""⟩
  let dry : MenuOption := ⟨"dry", "", 800, 15, false, ""⟩
  let cut : LeafMenu := ⟨"cut", "", 4000, 60, [wash, dry], "", ""⟩
  let root : SubmenuItem := ⟨"root", "", 5000, 70, "", ""⟩
  let full : SubmenuItem := ⟨"full", "", 7000, 90, "", ""⟩
  let color : SubmenuMenu := ⟨"color", "", [root, full], "", ""⟩
  let bang : LeafMenu := ⟨"bang", "", 1000, 20, [], "", ""⟩
  let hair : Category := ⟨"hair", "", [.leaf cut, .submenu color, .leaf bang], .multiple⟩
  have hcut : extrasConfig.catalogue.findMenu? "cut" = some (hair, .leaf cut) := by decide +kernel
  have hcolor : extrasConfig.catalogue.findMenu? "color" = some (hair, .submenu color) := by
    decide +kernel
  have hbang : extrasConfig.catalogue.findMenu? "bang" = some (hair, .leaf bang) := by
    decide +kernel
  obtain ⟨-, -, hdry, -⟩ := hoptions "cut" (by decide +kernel) hair cut hcut "dry" dry rfl
  obtain ⟨-, -, -, hwash⟩ := hoptions "cut" (by decide +kernel) hair cut hcut "wash" wash rfl
  have hfull := hitems "color" (by decide +kernel) hair color hcolor "full" full rfl
  have hcutTaken := htaken "cut" (by decide +kernel) hair _ hcut (by decide +kernel)
  have hbangAdded := hadded "bang" (by decide +kernel) hair bang hbang (by decide +kernel)
  refine ⟨hconfig, htotals, ?_, ?_, ?_, ?_, ?_⟩
  · exact (hdry (by decide +kernel)).1.trans (by decide +kernel)
  · exact add_right_cancel ((hwash (by decide +kernel)).trans (by decide +kernel))
  · exact add_right_cancel (hfull.trans (by decide +kernel))
  · exact add_right_cancel (hcutTaken.trans (by decide +kernel))
  · exact hbangAdded.trans (by decide +kernel)

end SalonBooking
