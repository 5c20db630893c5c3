import SalonBooking.Booking.Message
import SalonBooking.Proofs.Booking.Phase
import SalonBooking.Proofs.Data.Assoc
import SalonBooking.Proofs.Form.WellFormed

/-!
# Posted and clicked selections

A selection of menus reaches the salon in two ways: as a list of entries that is
read at once, and click by click.  Both lead to the same selection if the choices
can be made at all: `MenuChoice.AreTogether` says which ones a customer can make
side by side.

Both ways add one choice after the other to what is there already.  What is there
is `Selection.ofChoices`, and there is one lemma per way about the next choice:
`addEntry_ofChoices` for an entry, `clicks_ofChoices` for the clicks of a choice.
No later choice touches an earlier one, since the menus are different ones.
-/

namespace SalonBooking

/-- A chosen menu, the item that was chosen under it, and the options. -/
structure MenuChoice where
  menuId : String
  itemId : Option String
  optionIds : List String
  deriving DecidableEq, Repr

namespace MenuChoice

/-- The clicks that make a choice: the menu, its item, its options. -/
def clicks (choice : MenuChoice) : List Click :=
  .menu choice.menuId ::
    (choice.itemId.toList.map fun id => .submenuItem id (some choice.menuId)) ++
      choice.optionIds.map fun id => .option id (some choice.menuId)

/-- An entry of a posted selection holds a choice.  An item that is not chosen is `null` or left
out, or the empty text; a list of no options may be left out as well. -/
structure IsPostedAs (choice : MenuChoice) (entry : Json) : Prop where
  isObject : entry.isObject = true
  menuId : entry.get "menu_id" = .str choice.menuId
  itemId : entry.get "submenu_id" = choice.itemId.elim .null .str ∨
    choice.itemId = none ∧ entry.get "submenu_id" = .str ""
  optionIds : entry.get "option_ids" = .arr (choice.optionIds.map .str) ∨
    choice.optionIds = [] ∧ entry.get "option_ids" = .null

/-- A choice that can be made under a menu: at most one of the items of a submenu, or different
options of a leaf. -/
def Fits (choice : MenuChoice) : Menu → Prop
  | .leaf menu => choice.itemId = none ∧ choice.optionIds.Nodup ∧
      ∀ id ∈ choice.optionIds, id ∈ menu.options.map MenuOption.id
  | .submenu menu => choice.optionIds = [] ∧
      ∀ id ∈ choice.itemId, id ∈ menu.items.map SubmenuItem.id

/-- Choices that can be made side by side: of different known menus, and if there are several, of
menus that may be booked together. -/
structure AreTogether (catalogue : Catalogue) (choices : List MenuChoice) : Prop where
  nodup : (choices.map MenuChoice.menuId).Nodup
  fits : ∀ choice ∈ choices, ∃ category menu,
    catalogue.findMenu? choice.menuId = some (category, menu) ∧ choice.Fits menu
  oneCategory : 1 < choices.length → catalogue.crossCategory = true ∨
    ∃ categoryId, ∀ choice ∈ choices, ∃ category menu,
      catalogue.findMenu? choice.menuId = some (category, menu) ∧
        catalogue.isAdditive category = true ∧ category.id = categoryId

end MenuChoice

namespace Selection

variable {done : List MenuChoice} {choice : MenuChoice} {entry : Json}

/-- The selection in which some choices have been made and nothing else. -/
def ofChoices (choices : List MenuChoice) : Selection :=
  { Selection.empty with
    menuIds := choices.map MenuChoice.menuId
    submenuIds := choices.filterMap fun choice => choice.itemId.map (choice.menuId, ·)
    selectedOptions := choices.filterMap fun choice =>
      if choice.optionIds = [] then none else some (choice.menuId, choice.optionIds) }

/-- The items chosen under some menus stand under these menus only. -/
theorem notMem_keys_submenuIds (h : choice.menuId ∉ done.map MenuChoice.menuId) :
    choice.menuId ∉ Assoc.keys (ofChoices done).submenuIds := by
  intro hmem
  obtain ⟨pair, hpair, hkey⟩ := List.mem_map.mp hmem
  obtain ⟨other, hother, hsome⟩ := List.mem_filterMap.mp hpair
  obtain ⟨item, -, rfl⟩ := Option.map_eq_some_iff.mp hsome
  exact h (List.mem_map.mpr ⟨other, hother, hkey⟩)

theorem notMem_keys_selectedOptions (h : choice.menuId ∉ done.map MenuChoice.menuId) :
    choice.menuId ∉ Assoc.keys (ofChoices done).selectedOptions := by
  intro hmem
  obtain ⟨pair, hpair, hkey⟩ := List.mem_map.mp hmem
  obtain ⟨other, hother, hsome⟩ := List.mem_filterMap.mp hpair
  split at hsome
  · simp at hsome
  · obtain rfl := Option.some.inj hsome
    exact h (List.mem_map.mpr ⟨other, hother, hkey⟩)

/-- One more choice of another menu. -/
theorem ofChoices_concat (h : choice.menuId ∉ done.map MenuChoice.menuId) :
    ofChoices (done ++ [choice]) = { ofChoices done with
      menuIds := (ofChoices done).menuIds ++ [choice.menuId]
      submenuIds := choice.itemId.elim (ofChoices done).submenuIds fun item =>
        Assoc.set choice.menuId item (ofChoices done).submenuIds
      selectedOptions :=
        if choice.optionIds = [] then (ofChoices done).selectedOptions
        else Assoc.set choice.menuId choice.optionIds (ofChoices done).selectedOptions } := by
  have hitem (item : String) := Assoc.set_of_notMem (notMem_keys_submenuIds h) item
  rw [Assoc.set_of_notMem (notMem_keys_selectedOptions h)]
  simp only [hitem]
  cases hchosen : choice.itemId <;> by_cases hoptions : choice.optionIds = [] <;>
    simp [ofChoices, List.filterMap_append, hchosen, hoptions]

/-! ## Entry by entry -/

/-- An entry adds its choice. -/
theorem addEntry_ofChoices (hposted : choice.IsPostedAs entry) (hmenu : choice.menuId ≠ "")
    (hitem : ∀ id ∈ choice.itemId, id ≠ "") (hnew : choice.menuId ∉ done.map MenuChoice.menuId) :
    addEntry (ofChoices done) entry = ofChoices (done ++ [choice]) := by
  have hmenuId : textMember entry "menu_id" = choice.menuId := by
    rw [textMember, hposted.menuId]
    rfl
  have hitemId : textMember entry "submenu_id" = choice.itemId.getD "" := by
    rcases hposted.itemId with h | ⟨hnone, h⟩
    · rw [textMember, h]
      cases choice.itemId <;> rfl
    · rw [textMember, h, hnone]
      rfl
  have hoptionIds : strings (entry.get "option_ids") = choice.optionIds := by
    rcases hposted.optionIds with h | ⟨hnil, h⟩
    · rw [h, strings, Json.items, List.filterMap_map]
      exact List.filterMap_some
    · rw [h, hnil]
      rfl
  have hcontains : (ofChoices done).menuIds.contains choice.menuId = false := by
    simpa [ofChoices] using hnew
  rw [ofChoices_concat hnew, addEntry]
  simp only [hmenuId, hitemId, hoptionIds, hcontains, Bool.or_false, List.isEmpty_iff,
    String.isEmpty_iff, hmenu, if_false]
  cases hchosen : choice.itemId with
  | none => simp
  | some item =>
    have hne : item ≠ "" := hitem item (by rw [hchosen]; rfl)
    simp [hne]

/-- Entries add their choices, in the order of the list. -/
theorem foldl_addEntry {choices : List MenuChoice} {entries : List Json}
    (hposted : List.Forall₂ MenuChoice.IsPostedAs choices entries)
    (hmenus : ∀ choice ∈ choices, choice.menuId ≠ "")
    (hitems : ∀ choice ∈ choices, ∀ id ∈ choice.itemId, id ≠ "")
    (hnodup : ((done ++ choices).map MenuChoice.menuId).Nodup) :
    entries.foldl addEntry (ofChoices done) = ofChoices (done ++ choices) := by
  induction hposted generalizing done with
  | nil => rw [List.append_nil]; rfl
  | @cons choice entry choices entries hfirst _ ih =>
    have hsplit : done ++ choice :: choices = done ++ [choice] ++ choices := by simp
    have hnew : choice.menuId ∉ done.map MenuChoice.menuId := by
      rw [List.map_append, List.nodup_append] at hnodup
      exact fun hmem => hnodup.2.2 _ hmem _ List.mem_cons_self rfl
    rw [List.foldl_cons, addEntry_ofChoices hfirst (hmenus _ List.mem_cons_self)
      (hitems _ List.mem_cons_self) hnew]
    rw [hsplit] at hnodup ⊢
    exact ih (fun other hother => hmenus other (List.mem_cons_of_mem _ hother))
      (fun other hother => hitems other (List.mem_cons_of_mem _ hother)) hnodup

end Selection

/-! ## Click by click -/

/-- The selection with the options of one menu replaced. -/
def Selection.withOptions (sel : Selection) (menuId : String) (optionIds : List String) :
    Selection :=
  { sel with selectedOptions := Assoc.set menuId optionIds sel.selectedOptions }

@[simp] theorem Selection.optionsOf_withOptions (sel : Selection) (menuId : String)
    (optionIds : List String) :
    (sel.withOptions menuId optionIds).optionsOf menuId = optionIds := by
  simp [Selection.withOptions, Selection.optionsOf]

@[simp] theorem Selection.withOptions_withOptions (sel : Selection) (menuId : String)
    (first second : List String) :
    (sel.withOptions menuId first).withOptions menuId second = sel.withOptions menuId second := by
  simp [Selection.withOptions, Assoc.set_set]

namespace Catalogue

variable {catalogue : Catalogue} {sel : Selection} {menuId : String} {category : Category}

theorem clicks_append (sel : Selection) (cs cs' : List Click) :
    catalogue.clicks sel (cs ++ cs') = catalogue.clicks (catalogue.clicks sel cs) cs' :=
  List.foldl_append

/-- Nothing is dropped where all menus are of the one category. -/
theorem dropOtherCategories_of_forall {categoryId : String}
    (h : ∀ id ∈ sel.menuIds, catalogue.isInCategory categoryId id = true) :
    catalogue.dropOtherCategories categoryId sel = sel := by
  have hnone : (sel.menuIds.filter fun id => !catalogue.isInCategory categoryId id) = [] := by
    rw [List.filter_eq_nil_iff]
    intro id hid
    simp [h id hid]
  rw [dropOtherCategories, hnone]
  rfl

/-- A menu of an additive category goes next to menus of its category, or of any if categories may
be crossed. -/
theorem toggleMenu_of_additive (hadditive : catalogue.isAdditive category = true)
    (hnew : menuId ∉ sel.menuIds) (htogether : catalogue.crossCategory = true ∨
      ∀ id ∈ sel.menuIds, catalogue.isInCategory category.id id = true) :
    catalogue.toggleMenu category menuId sel = sel.addMenu menuId := by
  have hcontains : sel.menuIds.contains menuId = false := by simpa using hnew
  simp only [toggleMenu, hadditive, hcontains, Bool.not_true, Bool.false_eq_true, if_false]
  split
  · rfl
  · rename_i hcross
    rw [dropOtherCategories_of_forall (htogether.resolve_left hcross)]

/-- The first menu is added, whatever its category takes. -/
theorem toggleMenu_of_no_menus (hmenus : sel.menuIds = []) (hitems : sel.submenuIds = [])
    (hoptions : sel.selectedOptions = []) :
    catalogue.toggleMenu category menuId sel = sel.addMenu menuId := by
  by_cases hadditive : catalogue.isAdditive category = true
  · exact toggleMenu_of_additive hadditive (by simp [hmenus]) (Or.inr (by simp [hmenus]))
  · have hcleared : sel.clearMenus = sel := by
      rw [Selection.clearMenus, ← hmenus, ← hitems, ← hoptions]
    simp [toggleMenu, hadditive, hmenus, hcleared]

/-- An item is chosen under the selected menu that is named with it. -/
theorem selectItem_of_mem {menu : SubmenuMenu} {itemId : String} (hselected : menuId ∈ sel.menuIds)
    (hfound : catalogue.findMenu? menuId = some (category, .submenu menu))
    (hitem : itemId ∈ menu.items.map SubmenuItem.id) :
    catalogue.selectItem itemId (some menuId) sel =
      { sel with submenuIds := Assoc.set menuId itemId sel.submenuIds } := by
  have hhas : catalogue.hasItem itemId menuId = true := by
    obtain ⟨item, hmem, hid⟩ := List.mem_map.mp hitem
    refine hasItem_iff.mpr ⟨category, menu, hfound, ?_⟩
    exact List.find?_isSome.mpr ⟨item, hmem, by simpa using hid⟩
  have hcandidates : sel.candidates (some menuId) = [menuId] := by
    simp [Selection.candidates, hselected]
  simp only [selectItem, hcandidates, List.find?_cons_of_pos hhas]

/-- An option that is not chosen yet is added under the selected menu that is named with it. -/
theorem toggleOption_of_mem {menu : LeafMenu} {optionId : String} (hselected : menuId ∈ sel.menuIds)
    (hfound : catalogue.findMenu? menuId = some (category, .leaf menu))
    (hoption : optionId ∈ menu.options.map MenuOption.id) (hnew : optionId ∉ sel.optionsOf menuId) :
    (catalogue.toggleOption optionId (some menuId) sel).2 =
      sel.withOptions menuId (sel.optionsOf menuId ++ [optionId]) := by
  have hhas : catalogue.hasOption optionId menuId = true := by
    obtain ⟨o, hmem, hid⟩ := List.mem_map.mp hoption
    refine hasOption_iff.mpr ⟨category, menu, hfound, ?_⟩
    exact List.find?_isSome.mpr ⟨o, hmem, by simpa using hid⟩
  have hcandidates : sel.candidates (some menuId) = [menuId] := by
    simp [Selection.candidates, hselected]
  simp [toggleOption, hcandidates, hhas, flipOption, hnew, Selection.withOptions]

/-- Clicks on different options add them in the order of the clicks. -/
theorem clicks_options {menu : LeafMenu} {optionIds : List String}
    (hselected : menuId ∈ sel.menuIds)
    (hfound : catalogue.findMenu? menuId = some (category, .leaf menu))
    (hoptions : ∀ id ∈ optionIds, id ∈ menu.options.map MenuOption.id)
    (hnodup : (sel.optionsOf menuId ++ optionIds).Nodup) (hne : optionIds ≠ []) :
    catalogue.clicks sel (optionIds.map fun id => .option id (some menuId)) =
      sel.withOptions menuId (sel.optionsOf menuId ++ optionIds) := by
  induction optionIds generalizing sel with
  | nil => exact absurd rfl hne
  | cons id rest ih =>
    have hnew : id ∉ sel.optionsOf menuId := by
      rw [List.nodup_append] at hnodup
      exact fun hmem => hnodup.2.2 _ hmem _ List.mem_cons_self rfl
    rw [List.map_cons]
    show catalogue.clicks (catalogue.toggleOption id (some menuId) sel).2 _ = _
    rw [toggleOption_of_mem hselected hfound (hoptions id List.mem_cons_self) hnew]
    have hsplit : sel.optionsOf menuId ++ id :: rest = sel.optionsOf menuId ++ [id] ++ rest := by
      simp
    rw [hsplit] at hnodup ⊢
    by_cases hrest : rest = []
    · rw [hrest, List.append_nil]
      rfl
    · let next := sel.withOptions menuId (sel.optionsOf menuId ++ [id])
      have hselected' : menuId ∈ next.menuIds := hselected
      have hnodup' : (next.optionsOf menuId ++ rest).Nodup := by simpa [next] using hnodup
      rw [ih hselected' (fun other hother => hoptions other (List.mem_cons_of_mem _ hother))
        hnodup' hrest]
      simp [next]

end Catalogue

namespace MenuChoice

variable {catalogue : Catalogue} {done rest : List MenuChoice} {choice : MenuChoice}

/-- A choice next to others is of another menu. -/
theorem AreTogether.notMem (h : AreTogether catalogue (done ++ choice :: rest)) :
    choice.menuId ∉ done.map MenuChoice.menuId := by
  have hnodup := h.nodup
  rw [List.map_append, List.nodup_append] at hnodup
  exact fun hmem => hnodup.2.2 _ hmem _ List.mem_cons_self rfl

/-- A click on the menu of the next choice adds it to what has been chosen. -/
theorem AreTogether.selectMenu (h : AreTogether catalogue (done ++ choice :: rest)) :
    catalogue.selectMenu choice.menuId (.ofChoices done) =
      (Selection.ofChoices done).addMenu choice.menuId := by
  have hmem : choice ∈ done ++ choice :: rest := by simp
  obtain ⟨category, menu, hfound, -⟩ := h.fits choice hmem
  simp only [Catalogue.selectMenu, hfound]
  show catalogue.toggleMenu category choice.menuId (.ofChoices done) = _
  cases hdone : done with
  | nil => exact Catalogue.toggleMenu_of_no_menus rfl rfl rfl
  | cons first others =>
    rw [← hdone]
    have hseveral : 1 < (done ++ choice :: rest).length := by
      simp only [hdone, List.length_append, List.length_cons]
      omega
    have hnew : choice.menuId ∉ (Selection.ofChoices done).menuIds := h.notMem
    rcases h.oneCategory hseveral with hcross | ⟨categoryId, hall⟩
    · have hadditive : catalogue.isAdditive category = true := by
        rw [Catalogue.isAdditive, hcross, Bool.true_or]
      exact Catalogue.toggleMenu_of_additive hadditive hnew (Or.inl hcross)
    · obtain ⟨category', menu', hfound', hadditive, hid⟩ := hall choice hmem
      obtain ⟨rfl, rfl⟩ : category = category' ∧ menu = menu' := by
        simpa [hfound] using hfound'
      refine Catalogue.toggleMenu_of_additive hadditive hnew (Or.inr fun id hid' => ?_)
      obtain ⟨other, hother, rfl⟩ := List.mem_map.mp hid'
      obtain ⟨category', menu', hfound', -, hsame⟩ := hall other (List.mem_append_left _ hother)
      exact Catalogue.isInCategory_iff.mpr ⟨category', menu', hfound', hsame.trans hid.symm⟩

/-- The clicks of the next choice add it to what has been chosen. -/
theorem AreTogether.clicks_ofChoices (h : AreTogether catalogue (done ++ choice :: rest)) :
    catalogue.clicks (.ofChoices done) choice.clicks = .ofChoices (done ++ [choice]) := by
  have hadded : choice.menuId ∈ ((Selection.ofChoices done).addMenu choice.menuId).menuIds := by
    simp [Selection.addMenu]
  obtain ⟨category, menu, hfound, hfits⟩ := h.fits choice (by simp)
  rw [Selection.ofChoices_concat h.notMem, MenuChoice.clicks, List.cons_append]
  show catalogue.clicks (catalogue.selectMenu choice.menuId (.ofChoices done)) _ = _
  rw [h.selectMenu, Catalogue.clicks_append]
  cases menu with
  | leaf menu =>
    obtain ⟨hitem, hnodup, hoptions⟩ := hfits
    rw [hitem]
    show catalogue.clicks ((Selection.ofChoices done).addMenu choice.menuId) _ = _
    by_cases hnone : choice.optionIds = []
    · rw [hnone]
      rfl
    · have hbefore : ((Selection.ofChoices done).addMenu choice.menuId).optionsOf
          choice.menuId = [] := by
        have hnotMem := Selection.notMem_keys_selectedOptions h.notMem
        rw [Selection.optionsOf]
        exact congrArg (·.getD []) (Assoc.get?_eq_none_of_notMem hnotMem)
      rw [Catalogue.clicks_options hadded hfound hoptions (by rw [hbefore]; exact hnodup) hnone,
        hbefore, if_neg hnone]
      rfl
  | submenu menu =>
    obtain ⟨hoptions, hitems⟩ := hfits
    rw [hoptions]
    cases hchosen : choice.itemId with
    | none => rfl
    | some item =>
      show catalogue.selectItem item (some choice.menuId) _ = _
      rw [Catalogue.selectItem_of_mem hadded hfound (hitems item hchosen)]
      rfl

/-- The clicks of all choices lead to the selection in which they have been made. -/
theorem AreTogether.clicks_flatMap (h : AreTogether catalogue (done ++ rest)) :
    catalogue.clicks (.ofChoices done) (rest.flatMap MenuChoice.clicks) =
      .ofChoices (done ++ rest) := by
  induction rest generalizing done with
  | nil => rw [List.append_nil]; rfl
  | cons choice rest ih =>
    have hsplit : done ++ choice :: rest = done ++ [choice] ++ rest := by simp
    rw [List.flatMap_cons, Catalogue.clicks_append, h.clicks_ofChoices]
    rw [hsplit] at h ⊢
    exact ih h

/-! ## Both ways -/

/-- Ids of a complete catalogue are not empty, so none of them counts as left out. -/
theorem AreTogether.ids_ne_empty (hcatalogue : catalogue.WellFormed)
    (h : AreTogether catalogue rest) (hmem : choice ∈ rest) :
    choice.menuId ≠ "" ∧ ∀ id ∈ choice.itemId, id ≠ "" := by
  obtain ⟨category, menu, hfound, hfits⟩ := h.fits choice hmem
  obtain ⟨hcategory, hmenu, hid⟩ := Catalogue.mem_of_findMenu? hfound
  have hwf : menu.WellFormed := (hcatalogue.categories category hcategory).menus menu hmenu
  refine ⟨hid ▸ hwf.id_ne_empty, fun id hchosen => ?_⟩
  cases menu with
  | leaf menu => simp [hfits.1] at hchosen
  | submenu menu =>
    obtain ⟨item, hitem, rfl⟩ := List.mem_map.mp (hfits.2 id hchosen)
    exact (SubmenuMenu.WellFormed.items hwf item hitem).id

theorem filter_isObject {entries : List Json} (h : List.Forall₂ IsPostedAs rest entries) :
    entries.filter Json.isObject = entries := by
  induction h with
  | nil => rfl
  | cons hfirst _ ih => rw [List.filter_cons_of_pos hfirst.isObject, ih]

/-- A posted selection is read unless its further wishes cannot be, and has the posted choices. -/
theorem ofJson_of_posted {limits : Limits} {v : Json} {entries : List Json}
    (hmenus : v.get "menus" = .arr entries)
    (hposted : List.Forall₂ IsPostedAs rest entries) {wishes : List DesiredTime}
    (hwishes : Selection.readAlternates limits (v.get "alternates") = .ok wishes)
    (hmenuIds : ∀ choice ∈ rest, choice.menuId ≠ "")
    (hitemIds : ∀ choice ∈ rest, ∀ id ∈ choice.itemId, id ≠ "")
    (hnodup : (rest.map MenuChoice.menuId).Nodup) :
    ∃ posted, Selection.ofJson limits v = .ok posted ∧
      posted.menuIds = (Selection.ofChoices rest).menuIds ∧
      posted.submenuIds = (Selection.ofChoices rest).submenuIds ∧
      posted.selectedOptions = (Selection.ofChoices rest).selectedOptions ∧
      posted.desired = ⟨(v.get "date").text?.getD "", (v.get "time").text?.getD ""⟩ := by
  have hread : (Selection.entries v).foldl Selection.addEntry .empty = .ofChoices rest := by
    simp only [Selection.entries, hmenus, filter_isObject hposted]
    exact @Selection.foldl_addEntry [] rest entries hposted hmenuIds hitemIds hnodup
  rw [Selection.ofJson, hwishes, hread]
  exact ⟨_, rfl, rfl, rfl, rfl, rfl⟩

end MenuChoice

/-- Choices that can be made side by side are read from a posted list as they would be clicked one
after the other: the same menus, items and options are selected, so the phase, the totals and the
line of the menus are the same, and the posted date is one that a click would set. -/
theorem posted_eq_clicked {limits : Limits} {source : Source} {config : FormConfig}
    (hconfig : normalize limits source = .ok config) {choices : List MenuChoice}
    (htogether : MenuChoice.AreTogether config.catalogue choices) {v : Json} {entries : List Json}
    (hmenus : v.get "menus" = .arr entries)
    (hposted : List.Forall₂ MenuChoice.IsPostedAs choices entries) {wishes : List DesiredTime}
    (hwishes : Selection.readAlternates limits (v.get "alternates") = .ok wishes) :
    ∃ posted, Selection.ofJson limits v = .ok posted ∧
      let clicked := config.catalogue.clicks .empty (choices.flatMap MenuChoice.clicks)
      clicked.menuIds = posted.menuIds ∧ clicked.submenuIds = posted.submenuIds ∧
      clicked.selectedOptions = posted.selectedOptions ∧
      config.catalogue.phase clicked = config.catalogue.phase posted ∧
      config.catalogue.totals clicked = config.catalogue.totals posted ∧
      config.catalogue.menuLine clicked = config.catalogue.menuLine posted ∧
      posted.desired = ⟨(v.get "date").text?.getD "", (v.get "time").text?.getD ""⟩ ∧
      ((config.catalogue.phase clicked).isTerminal = true →
        config.catalogue.selectDateTime posted.desired.date posted.desired.time clicked =
          (true, { clicked with desired := posted.desired })) := by
  have hids : ∀ choice ∈ choices, choice.menuId ≠ "" ∧ ∀ id ∈ choice.itemId, id ≠ "" :=
    fun choice hmem => htogether.ids_ne_empty (wellFormed_of_normalize hconfig).catalogue hmem
  have hclicked : config.catalogue.clicks .empty (choices.flatMap MenuChoice.clicks) =
      .ofChoices choices := @MenuChoice.AreTogether.clicks_flatMap _ [] choices htogether
  obtain ⟨posted, hread, hmenuIds, hsubmenuIds, hoptions, hdesired⟩ :=
    MenuChoice.ofJson_of_posted hmenus hposted hwishes (fun choice hmem => (hids choice hmem).1)
      (fun choice hmem => (hids choice hmem).2) htogether.nodup
  refine ⟨posted, hread, ?_⟩
  rw [hclicked]
  have hpicks : config.catalogue.picks (.ofChoices choices) = config.catalogue.picks posted :=
    Catalogue.picks_congr hmenuIds.symm hsubmenuIds.symm hoptions.symm
  refine ⟨hmenuIds.symm, hsubmenuIds.symm, hoptions.symm, ?_, ?_, ?_, hdesired, ?_⟩
  · rw [Catalogue.phase, Catalogue.phase, hpicks]
  · rw [Catalogue.totals, Catalogue.totals, hpicks]
  · rw [Catalogue.menuLine, Catalogue.menuLine, hpicks]
  · intro hterminal
    rw [Catalogue.selectDateTime, if_pos hterminal]

/-- A category that takes several menus, a leaf with options and a submenu. -/
def salonWithSubmenu : Json :=
  .obj [("menu_structure", .obj [("categories", .arr [
    .obj [("id", .str "hair"), ("selection_mode", .str "multiple"), ("menus", .arr [
      .obj [("id", .str "cut"), ("price", .int 4000),
        ("options", .arr [.obj [("id", .str "wash")], .obj [("id", .str "dry")]])],
      .obj [("id", .str "color"), ("has_submenu", .bool true),
        ("sub_menu_items", .arr [.obj [("id", .str "full"), ("price", .int 7000)]])]])]])])]

/-- Both menus, the submenu first. -/
def postedMenus : Json :=
  .obj [("menus", .arr [.obj [("menu_id", .str "color"), ("submenu_id", .str "full")],
      .obj [("menu_id", .str "cut"), ("submenu_id", .str ""),
        ("option_ids", .arr [.str "dry", .str "wash"])]]),
    ("date", .str "2024-05-01"), ("time", .str "10:00")]

theorem posted_eq_clicked_postedMenus :
    ∃ config posted, normalize .standard (.value salonWithSubmenu) = .ok config ∧
      Selection.ofJson .standard postedMenus = .ok posted ∧
      let clicked := config.catalogue.clicks .empty [.menu "color",
        .submenuItem "full" (some "color"), .menu "cut", .option "dry" (some "cut"),
        .option "wash" (some "cut")]
      clicked.selectedOptions = [("cut", ["dry", "wash"])] ∧
      clicked.submenuIds = posted.submenuIds ∧
      config.catalogue.totals posted = ⟨11000, 0⟩ ∧
      config.catalogue.totals clicked = config.catalogue.totals posted ∧
      config.catalogue.selectDateTime "2024-05-01" "10:00" clicked =
        (true, { clicked with desired := ⟨"2024-05-01", "10:00"⟩ }) := by
  have hsalon : normalize .standard (.value salonWithSubmenu) = .ok _ := rfl
  have hposted : List.Forall₂ MenuChoice.IsPostedAs
      [⟨"color", some "full", []⟩, ⟨"cut", none, ["dry", "wash"]⟩]
      [.obj [("menu_id", .str "color"), ("submenu_id", .str "full")],
        .obj [("menu_id", .str "cut"), ("submenu_id", .str ""),
          ("option_ids", .arr [.str "dry", .str "wash"])]] :=
    .cons ⟨rfl, rfl, Or.inl rfl, Or.inr ⟨rfl, rfl⟩⟩
      (.cons ⟨rfl, rfl, Or.inr ⟨rfl, rfl⟩, Or.inl rfl⟩ .nil)
  have hwishes : Selection.readAlternates .standard (postedMenus.get "alternates") = .ok [] := rfl
  have hagree := fun htogether => posted_eq_clicked hsalon htogether rfl hposted hwishes
  obtain ⟨posted, hread, -, hitems, hoptions, -, htotals, -, hdesired, hdate⟩ := hagree
    { nodup := by decide
      fits := by
        rw [List.forall_mem_cons, List.forall_mem_singleton]
        exact ⟨⟨_, _, rfl, rfl, by decide⟩, ⟨_, _, rfl, rfl, by decide, by decide⟩⟩
      oneCategory := fun _ => Or.inr ⟨"hair", by
        rw [List.forall_mem_cons, List.forall_mem_singleton]
        exact ⟨⟨_, _, rfl, rfl, rfl⟩, ⟨_, _, rfl, rfl, rfl⟩⟩⟩ }
  refine ⟨_, posted, hsalon, hread, by rfl, hitems, htotals.symm.trans (by decide +kernel), htotals,
    ?_⟩
  rw [hdesired] at hdate
  exact hdate (by rfl)

end SalonBooking
