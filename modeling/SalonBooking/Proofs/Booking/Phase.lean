import SalonBooking.Booking.Click

/-!
# Looking menus up, and when nothing more has to be chosen

The phase of a selection is computed from its picks.  The proofs about clicks
need it in terms of what a click changes: the selected menus and the item
chosen under each.

* `findMenu?_id`: a menu is found under its own id only.
* `picks_congr`: picks come from the menus and what is chosen under them.
* `phase_isTerminal_iff`: a date can be chosen exactly when a known menu is
  selected and every selected submenu has one of its items.
* `phase_isTerminal_congr`: so the options and the dates do not matter for it.
-/

namespace SalonBooking

namespace Catalogue

/-! ## Looking menus up -/

/-- A menu that is found belongs to the category that it is found with. -/
theorem mem_of_findMenu? {catalogue : Catalogue} {id : String} {category : Category} {menu : Menu}
    (h : catalogue.findMenu? id = some (category, menu)) :
    category ∈ catalogue.categories ∧ menu ∈ category.menus ∧ menu.id = id := by
  obtain ⟨other, hmem, hfound⟩ := List.exists_of_findSome?_eq_some h
  obtain ⟨m, hm, hpair⟩ := Option.map_eq_some_iff.mp hfound
  simp only [Prod.mk.injEq] at hpair
  obtain ⟨rfl, rfl⟩ := hpair
  refine ⟨hmem, List.mem_of_find?_eq_some hm, ?_⟩
  simpa using List.find?_some hm

theorem findMenu?_id {catalogue : Catalogue} {id : String} {category : Category} {menu : Menu}
    (h : catalogue.findMenu? id = some (category, menu)) : menu.id = id :=
  (mem_of_findMenu? h).2.2

theorem isInCategory_iff {catalogue : Catalogue} {categoryId menuId : String} :
    catalogue.isInCategory categoryId menuId = true ↔
      ∃ category menu, catalogue.findMenu? menuId = some (category, menu) ∧
        category.id = categoryId := by
  rw [isInCategory]
  cases catalogue.findMenu? menuId with
  | none => simp
  | some found =>
    obtain ⟨category, menu⟩ := found
    simp

theorem hasItem_iff {catalogue : Catalogue} {itemId menuId : String} :
    catalogue.hasItem itemId menuId = true ↔
      ∃ category menu, catalogue.findMenu? menuId = some (category, .submenu menu) ∧
        (menu.findItem? itemId).isSome = true := by
  rw [hasItem]
  cases h : catalogue.findMenu? menuId with
  | none => simp
  | some found =>
    obtain ⟨category, menu⟩ := found
    cases menu <;> simp [and_assoc]

theorem hasOption_iff {catalogue : Catalogue} {optionId menuId : String} :
    catalogue.hasOption optionId menuId = true ↔
      ∃ category menu, catalogue.findMenu? menuId = some (category, .leaf menu) ∧
        (menu.findOption? optionId).isSome = true := by
  rw [hasOption]
  cases h : catalogue.findMenu? menuId with
  | none => simp
  | some found =>
    obtain ⟨category, menu⟩ := found
    cases menu <;> simp [and_assoc]

end Catalogue

/-! ## The phase -/

/-- Nothing more has to be chosen when there is a pick and every pick is resolved. -/
theorem Phase.isTerminal_ofPicks_iff {picks : List Pick} :
    (Phase.ofPicks picks).isTerminal = true ↔
      picks ≠ [] ∧ ∀ p ∈ picks, p.isResolved = true := by
  rw [Phase.ofPicks]
  split
  · rename_i hnil
    simp [Phase.isTerminal, List.isEmpty_iff.mp hnil]
  · rename_i hne
    rw [List.isEmpty_iff] at hne
    split
    · rename_i hopen
      simp only [Bool.not_eq_true', List.all_eq_false] at hopen
      obtain ⟨p, hp, hunresolved⟩ := hopen
      simp only [Phase.isTerminal, Bool.false_eq_true, false_iff, not_and]
      exact fun _ hall => hunresolved (hall p hp)
    · rename_i hall
      simp only [Bool.not_eq_true', Bool.not_eq_false, List.all_eq_true] at hall
      have hterminal : ∀ b : Bool, (if b then Phase.submenu else Phase.leaf).isTerminal = true := by
        decide
      simp only [hterminal, true_iff]
      exact ⟨hne, hall⟩

namespace Catalogue

/-- A selection has chosen one of the items of a submenu. -/
def ChoosesItem (sel : Selection) (menu : SubmenuMenu) : Prop :=
  ∃ itemId, sel.submenuIds.get? menu.id = some itemId ∧ itemId ≠ "" ∧
    (menu.findItem? itemId).isSome = true

theorem isResolved_pickOf_submenu {sel : Selection} {category : Category} {menu : SubmenuMenu} :
    (pickOf sel category (.submenu menu)).isResolved = true ↔ ChoosesItem sel menu := by
  simp only [pickOf, Pick.isResolved, ChoosesItem]
  cases sel.submenuIds.get? menu.id with
  | none => simp
  | some itemId =>
    by_cases hempty : itemId = ""
    · simp [hempty]
    · simp [hempty]

theorem mem_picks_iff {catalogue : Catalogue} {sel : Selection} {p : Pick} :
    p ∈ catalogue.picks sel ↔
      ∃ id ∈ sel.menuIds, ∃ category menu, catalogue.findMenu? id = some (category, menu) ∧
        pickOf sel category menu = p := by
  simp [picks, pick?, List.mem_filterMap]

/-- Picks come from the menus and what is chosen under them, and from nothing else of a
selection. -/
theorem picks_congr {catalogue : Catalogue} {sel sel' : Selection}
    (hmenus : sel'.menuIds = sel.menuIds) (hitems : sel'.submenuIds = sel.submenuIds)
    (hoptions : sel'.selectedOptions = sel.selectedOptions) :
    catalogue.picks sel' = catalogue.picks sel := by
  have hpick : pickOf sel' = pickOf sel := by
    funext category menu
    cases menu <;> simp only [pickOf, Selection.optionsOf, hitems, hoptions]
  have hpick? : catalogue.pick? sel' = catalogue.pick? sel := by
    funext id
    rw [pick?, pick?, hpick]
  rw [picks, picks, hmenus, hpick?]

/-- A date can be chosen exactly when a known menu is selected and every selected submenu has one
of its items. -/
theorem phase_isTerminal_iff {catalogue : Catalogue} {sel : Selection} :
    (catalogue.phase sel).isTerminal = true ↔
      (∃ id ∈ sel.menuIds, (catalogue.findMenu? id).isSome = true) ∧
        ∀ id ∈ sel.menuIds, ∀ category menu,
          catalogue.findMenu? id = some (category, .submenu menu) → ChoosesItem sel menu := by
  rw [phase, Phase.isTerminal_ofPicks_iff]
  have hne : catalogue.picks sel ≠ [] ↔
      ∃ id ∈ sel.menuIds, (catalogue.findMenu? id).isSome = true := by
    constructor
    · intro hne
      obtain ⟨p, hp⟩ := List.exists_mem_of_ne_nil _ hne
      obtain ⟨id, hid, category, menu, hfound, -⟩ := mem_picks_iff.mp hp
      exact ⟨id, hid, by rw [hfound]; rfl⟩
    · rintro ⟨id, hid, hfound⟩
      obtain ⟨⟨category, menu⟩, hfound⟩ := Option.isSome_iff_exists.mp hfound
      exact List.ne_nil_of_mem (mem_picks_iff.mpr ⟨id, hid, category, menu, hfound, rfl⟩)
  refine and_congr hne ⟨?_, ?_⟩
  · intro hall id hid category menu hfound
    exact isResolved_pickOf_submenu.mp
      (hall _ (mem_picks_iff.mpr ⟨id, hid, category, .submenu menu, hfound, rfl⟩))
  · intro hall p hp
    obtain ⟨id, hid, category, menu, hfound, rfl⟩ := mem_picks_iff.mp hp
    cases menu with
    | leaf => rfl
    | submenu menu => exact isResolved_pickOf_submenu.mpr (hall id hid category menu hfound)

/-- Only the selected menus and the items under them decide. -/
theorem phase_isTerminal_congr {catalogue : Catalogue} {sel sel' : Selection}
    (hmenus : sel'.menuIds = sel.menuIds) (hitems : sel'.submenuIds = sel.submenuIds) :
    (catalogue.phase sel').isTerminal = (catalogue.phase sel).isTerminal := by
  rw [Bool.eq_iff_iff, phase_isTerminal_iff, phase_isTerminal_iff]
  simp only [ChoosesItem, hmenus, hitems]

end Catalogue

end SalonBooking
