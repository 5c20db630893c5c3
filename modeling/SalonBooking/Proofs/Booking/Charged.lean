import SalonBooking.Proofs.Booking.Received
import SalonBooking.Proofs.Booking.Reordered
import SalonBooking.Proofs.Data.Parts

/-!
# Options that are listed twice

A menu is charged once, however often it is posted.  An option is charged as often
as it is listed under its menu: a click takes away an option that is there
already, but a posted list of options is taken as it is.

Both the total and the length of the line of the menus are sums over the selected
menus, so the options that are listed again are a term of their own in each.

* `joinedLength_joinNonEmpty`: how long a joined text is.
* `totals_eq_charge`: the total as a sum over the selected menus that are known.
* `charge_optionsOf`, `joinedLength_menuLine`: what the options that are listed again
  add to the total and to the line.
* `totals_eq_charge_distinct_iff`, `menuLine_withOptionsOnce_iff`: when they add
  nothing.
* `options_charged_as_listed`: all of it for a posted selection.
* `option_charged_twice`: an option that is posted twice.
-/

namespace SalonBooking

/-! ## Joined texts -/

/-- By how much a text makes a joined text longer. -/
def joinedLength (separator text : String) : Nat :=
  if text = "" then 0 else text.length + separator.length

theorem joinedLength_of_ne {separator text : String} (h : text ≠ "") :
    joinedLength separator text = text.length + separator.length :=
  if_neg h

theorem joinedLength_eq_zero_iff {separator text : String} :
    joinedLength separator text = 0 ↔ text = "" := by
  constructor
  · intro h
    by_contra hne
    rw [joinedLength_of_ne hne, Nat.add_eq_zero_iff] at h
    exact hne (String.length_eq_zero_iff.mp h.1)
  · rintro rfl
    rfl

theorem joinNonEmpty_cons_of_ne {separator first : String} (h : first ≠ "") (rest : List String) :
    joinNonEmpty separator (first :: rest) =
      if joinNonEmpty separator rest = "" then first
      else first ++ separator ++ joinNonEmpty separator rest := by
  have hfilter : ((first :: rest).filter fun s => !s.isEmpty) =
      first :: rest.filter fun s => !s.isEmpty :=
    List.filter_cons_of_pos (by simpa using h)
  by_cases hnone : (rest.filter fun s => !s.isEmpty) = []
  · rw [joinNonEmpty, joinNonEmpty, hfilter, hnone, String.intercalate_singleton,
      String.intercalate_nil, if_pos rfl]
  · have hjoined : joinNonEmpty separator rest ≠ "" := by
      obtain ⟨s, hs⟩ := List.exists_mem_of_ne_nil _ hnone
      obtain ⟨hmem, hne⟩ := List.mem_filter.mp hs
      intro hempty
      simp [joinNonEmpty_eq_empty_iff.mp hempty s hmem] at hne
    rw [if_neg hjoined, joinNonEmpty, hfilter, String.intercalate_cons_of_ne_nil hnone]
    rfl

/-- A joined text is as long as its parts make it. -/
theorem joinedLength_joinNonEmpty (separator : String) (texts : List String) :
    joinedLength separator (joinNonEmpty separator texts) =
      (texts.map (joinedLength separator)).sum := by
  induction texts with
  | nil => rfl
  | cons first rest ih =>
    rw [List.map_cons, List.sum_cons, ← ih]
    by_cases hfirst : first = ""
    · subst hfirst
      rw [joinedLength_eq_zero_iff.mpr rfl, Nat.zero_add]
      rfl
    · rw [joinNonEmpty_cons_of_ne hfirst]
      split
      · rename_i hrest
        rw [hrest, joinedLength_eq_zero_iff.mpr rfl, Nat.add_zero]
      · rename_i hrest
        have hne : first ++ separator ++ joinNonEmpty separator rest ≠ "" := by
          intro hempty
          rw [String.append_eq_empty_iff] at hempty
          exact hrest hempty.2
        rw [joinedLength_of_ne hne, joinedLength_of_ne hfirst, joinedLength_of_ne hrest,
          String.length_append, String.length_append]
        omega

/-- A text that is longer with one separator is as much longer with another. -/
theorem joinedLength_eq_add_of (separator : String) {separator' s t : String} {extra : Nat}
    (hempty : s = "" ↔ t = "")
    (h : joinedLength separator s = joinedLength separator t + extra) :
    joinedLength separator' s = joinedLength separator' t + extra := by
  by_cases ht : t = ""
  · rw [hempty.mpr ht, ht] at h ⊢
    rw [joinedLength_eq_zero_iff.mpr rfl] at h ⊢
    exact h
  · have hs := mt hempty.mp ht
    rw [joinedLength_of_ne hs, joinedLength_of_ne ht] at h ⊢
    omega

/-! ## Options under a menu -/

namespace Menu

variable (menu : Menu) (optionIds : List String)

/-- The options of a menu that some ids lead to. -/
def listed (optionIds : List String) : Menu → List MenuOption
  | .leaf m => optionIds.filterMap m.findOption?
  | .submenu _ => []

theorem mem_listed_iff {o : MenuOption} : o ∈ menu.listed optionIds ↔
    ∃ m, menu = .leaf m ∧ ∃ id ∈ optionIds, m.findOption? id = some o := by
  cases menu with
  | leaf m => simp [listed]
  | submenu m => simp [listed]

/-- What is listed is listed once or again. -/
theorem listed_perm : (menu.listed optionIds).Perm
    (menu.listed (distinct optionIds) ++ menu.listed (repeats optionIds)) := by
  cases menu with
  | leaf m =>
    have hperm := (distinct_append_repeats_perm optionIds).filterMap m.findOption?
    rw [List.filterMap_append] at hperm
    exact hperm.symm
  | submenu m => exact List.Perm.refl []

/-- So in a sum over them what is listed again is a term of its own. -/
theorem sum_listed {M : Type} [AddCommMonoid M] (f : MenuOption → M) :
    ((menu.listed optionIds).map f).sum = ((menu.listed (distinct optionIds)).map f).sum +
      ((menu.listed (repeats optionIds)).map f).sum := by
  rw [((menu.listed_perm optionIds).map f).sum_eq, List.map_append, List.sum_append]

theorem listed_distinct_sublist :
    (menu.listed (distinct optionIds)).Sublist (menu.listed optionIds) := by
  cases menu with
  | leaf m => exact (distinct_sublist optionIds).filterMap m.findOption?
  | submenu m => exact List.Sublist.refl []

theorem mem_listed_distinct {o : MenuOption} :
    o ∈ menu.listed (distinct optionIds) ↔ o ∈ menu.listed optionIds := by
  simp only [mem_listed_iff, mem_distinct]

end Menu

namespace Catalogue

/-- The selected menus that are known. -/
def knownMenus (catalogue : Catalogue) (sel : Selection) : List (Category × Menu) :=
  sel.menuIds.filterMap catalogue.findMenu?

/-- An option of a selected menu is listed there more than once. -/
def ListsTwice (catalogue : Catalogue) (sel : Selection) (o : MenuOption) : Prop :=
  ∃ menuId ∈ sel.menuIds, ∃ category leaf,
    catalogue.findMenu? menuId = some (category, .leaf leaf) ∧
      ∃ optionId, 1 < (sel.optionsOf menuId).count optionId ∧ leaf.findOption? optionId = some o

variable {catalogue : Catalogue} {sel : Selection}

theorem picks_eq_map_knownMenus (catalogue : Catalogue) (sel : Selection) :
    catalogue.picks sel =
      (catalogue.knownMenus sel).map fun known => pickOf sel known.1 known.2 := by
  rw [knownMenus, List.map_filterMap]
  rfl

theorem options_pickOf (sel : Selection) (category : Category) (menu : Menu) :
    (pickOf sel category menu).options = menu.listed (sel.optionsOf menu.id) := by
  cases menu <;> rfl

/-- The options that are listed again are those that some menu lists more than once. -/
theorem listsTwice_iff {o : MenuOption} : catalogue.ListsTwice sel o ↔
    ∃ known ∈ catalogue.knownMenus sel,
      o ∈ known.2.listed (repeats (sel.optionsOf known.2.id)) := by
  constructor
  · rintro ⟨menuId, hselected, category, leaf, hfound, optionId, hcount, hoption⟩
    refine ⟨(category, .leaf leaf), List.mem_filterMap.mpr ⟨menuId, hselected, hfound⟩, ?_⟩
    rw [findMenu?_id hfound, Menu.mem_listed_iff]
    exact ⟨leaf, rfl, optionId, mem_repeats_iff.mpr hcount, hoption⟩
  · rintro ⟨⟨category, menu⟩, hknown, hlisted⟩
    obtain ⟨menuId, hselected, hfound⟩ := List.mem_filterMap.mp hknown
    obtain ⟨leaf, rfl, optionId, hrepeated, hoption⟩ := (Menu.mem_listed_iff _ _).mp hlisted
    rw [findMenu?_id hfound] at hrepeated
    exact ⟨menuId, hselected, category, leaf, hfound, optionId, mem_repeats_iff.mp hrepeated,
      hoption⟩

end Catalogue

/-! ## What is charged -/

/-- What an option costs. -/
def MenuOption.cost (o : MenuOption) : Totals := ⟨o.price, o.duration⟩

theorem MenuOption.cost_eq_zero_iff (o : MenuOption) :
    o.cost = 0 ↔ o.price = 0 ∧ o.duration = 0 := by
  show (⟨o.price, o.duration⟩ : Totals) = ⟨0, 0⟩ ↔ _
  rw [Totals.mk.injEq]

/-- What a menu costs without options: a leaf by itself, a submenu by its chosen item. -/
def Menu.base (sel : Selection) : Menu → Totals
  | .leaf m => ⟨m.price, m.duration⟩
  | .submenu m =>
    match (sel.submenuIds.get? m.id).bind m.findItem? with
    | some item => ⟨item.price, item.duration⟩
    | none => 0

/-- What some options under a menu cost. -/
def Menu.extras (optionIds : List String) (menu : Menu) : Totals :=
  ((menu.listed optionIds).map MenuOption.cost).sum

theorem Totals.sum_eq_zero_iff {ts : List Totals} : ts.sum = 0 ↔ ∀ t ∈ ts, t = 0 := by
  induction ts with
  | nil => simp
  | cons t rest ih =>
    rw [List.sum_cons, List.forall_mem_cons, ← ih]
    constructor
    · intro h
      have hprice := Nat.add_eq_zero_iff.mp (congrArg price h)
      have hduration := Nat.add_eq_zero_iff.mp (congrArg duration h)
      exact ⟨eq_of hprice.1 hduration.1, eq_of hprice.2 hduration.2⟩
    · rintro ⟨rfl, hrest⟩
      rw [hrest, add_zero]

namespace Catalogue

variable {catalogue : Catalogue} {sel : Selection}

/-- The sum over the selected menus that are known, with some options under each. -/
def charge (catalogue : Catalogue) (sel : Selection) (optionIds : String → List String) : Totals :=
  ((catalogue.knownMenus sel).map fun known =>
    known.2.base sel + known.2.extras (optionIds known.2.id)).sum

/-- A pick costs what its menu and the options listed under it cost. -/
theorem totals_pickOf (hitems : ∀ entry ∈ sel.submenuIds, entry.2 ≠ "") (category : Category)
    (menu : Menu) :
    (pickOf sel category menu).totals = menu.base sel + menu.extras (sel.optionsOf menu.id) := by
  cases menu with
  | leaf m => rfl
  | submenu m =>
    have hextras : (Menu.submenu m).extras (sel.optionsOf m.id) = 0 := rfl
    rw [show (Menu.submenu m).id = m.id from rfl, hextras, add_zero, pickOf, Menu.base]
    cases hitem : sel.submenuIds.get? m.id with
    | none => rfl
    | some itemId =>
      have hne : itemId ≠ "" := hitems _ (Assoc.mem_of_get? hitem)
      simp only [Option.bind_some, String.isEmpty_iff, if_neg hne]
      cases m.findItem? itemId <;> rfl

/-- The total is the sum over the selected menus that are known, with the options as they are
listed. -/
theorem totals_eq_charge (catalogue : Catalogue) (hitems : ∀ entry ∈ sel.submenuIds, entry.2 ≠ "") :
    catalogue.totals sel = catalogue.charge sel sel.optionsOf := by
  rw [totals, picks_eq_map_knownMenus, List.map_map, Totals.sum_eq, charge]
  refine congrArg List.sum (List.map_congr_left fun known _ => ?_)
  exact totals_pickOf hitems known.1 known.2

/-- What is listed again is charged again. -/
theorem charge_optionsOf (catalogue : Catalogue) (sel : Selection) :
    catalogue.charge sel sel.optionsOf =
      catalogue.charge sel (fun menuId => distinct (sel.optionsOf menuId)) +
        ((catalogue.knownMenus sel).map fun known =>
          known.2.extras (repeats (sel.optionsOf known.2.id))).sum := by
  rw [charge, charge, ← List.sum_map_add]
  refine congrArg List.sum (List.map_congr_left fun known _ => ?_)
  rw [add_assoc]
  exact congrArg _ (known.2.sum_listed _ MenuOption.cost)

/-- Every option is charged once exactly if those that are listed again cost nothing. -/
theorem totals_eq_charge_distinct_iff (hitems : ∀ entry ∈ sel.submenuIds, entry.2 ≠ "") :
    catalogue.totals sel = catalogue.charge sel (fun menuId => distinct (sel.optionsOf menuId)) ↔
      ∀ o, catalogue.ListsTwice sel o → o.cost = 0 := by
  rw [totals_eq_charge catalogue hitems, charge_optionsOf, add_eq_left, Totals.sum_eq_zero_iff,
    List.forall_mem_map]
  simp only [Menu.extras, Totals.sum_eq_zero_iff, List.forall_mem_map, listsTwice_iff]
  constructor
  · rintro h o ⟨known, hknown, hlisted⟩
    exact h known hknown o hlisted
  · intro h known hknown o hlisted
    exact h o ⟨known, hknown, hlisted⟩

end Catalogue

/-! ## What is named -/

/-- The selection with every option listed at its first place only. -/
def Selection.withOptionsOnce (sel : Selection) : Selection :=
  { sel with selectedOptions := sel.selectedOptions.map fun entry => (entry.1, distinct entry.2) }

theorem Selection.optionsOf_withOptionsOnce (sel : Selection) (menuId : String) :
    sel.withOptionsOnce.optionsOf menuId = distinct (sel.optionsOf menuId) := by
  rw [optionsOf, optionsOf, withOptionsOnce]
  dsimp only
  rw [Assoc.get?_map]
  cases sel.selectedOptions.get? menuId <;> rfl

/-- By how much the names of some options under a menu make its line longer. -/
def Menu.extraLength (optionIds : List String) (menu : Menu) : Nat :=
  ((menu.listed optionIds).map fun o => joinedLength ", " o.name).sum

namespace Catalogue

variable {catalogue : Catalogue} {sel : Selection} {category : Category} {menu : Menu}

/-- The path at the front of the line of a pick. -/
def pathOf (sel : Selection) (category : Category) (menu : Menu) : String :=
  (pickOf sel category menu).segment.path

theorem line_pickOf (sel : Selection) (category : Category) (menu : Menu) :
    (pickOf sel category menu).line = joinNonEmpty ", "
      (pathOf sel category menu :: (menu.listed (sel.optionsOf menu.id)).map (·.name)) := by
  rw [← options_pickOf sel category menu]
  rfl

theorem pathOf_withOptionsOnce (sel : Selection) (category : Category) (menu : Menu) :
    pathOf sel.withOptionsOnce category menu = pathOf sel category menu := by
  cases menu <;> rfl

/-- The options that are listed again make the line longer by their names. -/
theorem joinedLength_line (sel : Selection) (category : Category) (menu : Menu) :
    joinedLength " / " (pickOf sel category menu).line =
      joinedLength " / " (pickOf sel.withOptionsOnce category menu).line +
        menu.extraLength (repeats (sel.optionsOf menu.id)) := by
  rw [line_pickOf, line_pickOf, pathOf_withOptionsOnce, Selection.optionsOf_withOptionsOnce]
  apply joinedLength_eq_add_of ", "
  · simp only [joinNonEmpty_eq_empty_iff, List.forall_mem_cons, List.forall_mem_map,
      Menu.mem_listed_distinct]
  · rw [joinedLength_joinNonEmpty, joinedLength_joinNonEmpty, List.map_cons, List.map_cons,
      List.sum_cons, List.sum_cons, List.map_map, List.map_map, Nat.add_assoc]
    exact congrArg _ (menu.sum_listed _ fun o => joinedLength ", " o.name)

theorem menuLine_eq_joinNonEmpty (catalogue : Catalogue) (sel : Selection) :
    catalogue.menuLine sel = joinNonEmpty " / " ((catalogue.knownMenus sel).map fun known =>
      (pickOf sel known.1 known.2).line) := by
  rw [menuLine, picks_eq_map_knownMenus, List.map_map]
  rfl

/-- So do all lines together. -/
theorem joinedLength_menuLine (catalogue : Catalogue) (sel : Selection) :
    joinedLength " / " (catalogue.menuLine sel) =
      joinedLength " / " (catalogue.menuLine sel.withOptionsOnce) +
        ((catalogue.knownMenus sel).map fun known =>
          known.2.extraLength (repeats (sel.optionsOf known.2.id))).sum := by
  rw [menuLine_eq_joinNonEmpty, menuLine_eq_joinNonEmpty, joinedLength_joinNonEmpty,
    joinedLength_joinNonEmpty, List.map_map, List.map_map,
    show catalogue.knownMenus sel.withOptionsOnce = catalogue.knownMenus sel from rfl,
    ← List.sum_map_add]
  refine congrArg List.sum (List.map_congr_left fun known _ => ?_)
  exact joinedLength_line sel known.1 known.2

/-- Options without names may be listed again without being seen. -/
theorem line_withOptionsOnce
    (h : ∀ o ∈ menu.listed (repeats (sel.optionsOf menu.id)), o.name = "") :
    (pickOf sel.withOptionsOnce category menu).line = (pickOf sel category menu).line := by
  rw [line_pickOf, line_pickOf, pathOf_withOptionsOnce, Selection.optionsOf_withOptionsOnce]
  generalize sel.optionsOf menu.id = optionIds at h ⊢
  have hnone :
      ((menu.listed (repeats optionIds)).map (·.name)).filter (fun s => !s.isEmpty) = [] := by
    rw [List.filter_eq_nil_iff, List.forall_mem_map]
    intro o ho
    simp [h o ho]
  have hlength := (((menu.listed_perm optionIds).map (·.name)).filter fun s => !s.isEmpty).length_eq
  rw [List.map_append, List.filter_append, hnone, List.append_nil] at hlength
  have hkept := (((menu.listed_distinct_sublist optionIds).map (·.name)).filter fun s =>
    !s.isEmpty).eq_of_length hlength.symm
  rw [joinNonEmpty, joinNonEmpty, List.filter_cons, List.filter_cons, hkept]

/-- Every option is named once exactly if those that are listed again have no name. -/
theorem menuLine_withOptionsOnce_iff :
    catalogue.menuLine sel = catalogue.menuLine sel.withOptionsOnce ↔
      ∀ o, catalogue.ListsTwice sel o → o.name = "" := by
  simp only [listsTwice_iff]
  constructor
  · rintro h o ⟨known, hknown, hlisted⟩
    have hlength := joinedLength_menuLine catalogue sel
    rw [h, left_eq_add, List.sum_eq_zero_iff_forall_eq_nat,
      List.forall_mem_map] at hlength
    have hmenu := hlength known hknown
    rw [Menu.extraLength, List.sum_eq_zero_iff_forall_eq_nat, List.forall_mem_map] at hmenu
    exact joinedLength_eq_zero_iff.mp (hmenu o hlisted)
  · intro h
    rw [menuLine_eq_joinNonEmpty, menuLine_eq_joinNonEmpty]
    refine congrArg _ (List.map_congr_left fun known hknown => ?_)
    exact (line_withOptionsOnce fun o hlisted => h o ⟨known, hknown, hlisted⟩).symm

end Catalogue

/-! ## Posted and clicked options -/

/-- What clicks lead to lists no option twice, so each is charged and named once. -/
theorem charged_once_of_clicks {limits : Limits} {source : Source} {config : FormConfig}
    (hconfig : normalize limits source = .ok config) (cs : List Click) :
    let clicked := config.catalogue.clicks .empty cs
    config.catalogue.totals clicked =
        config.catalogue.charge clicked (fun menuId => distinct (clicked.optionsOf menuId)) ∧
      config.catalogue.menuLine clicked = config.catalogue.menuLine clicked.withOptionsOnce := by
  intro clicked
  have hclicked : clicked.Consistent config.catalogue := consistent_clicks hconfig cs
  have hnone : ∀ o, ¬ config.catalogue.ListsTwice clicked o := by
    rintro o ⟨menuId, -, -, -, -, optionId, hcount, -⟩
    have hle := List.nodup_iff_count_le_one.mp (hclicked.nodup_optionsOf menuId) optionId
    omega
  have hitems : ∀ entry ∈ clicked.submenuIds, entry.2 ≠ "" := by
    intro entry hentry
    obtain ⟨-, category, menu, hfound, hitem⟩ := hclicked.items entry hentry
    exact Selection.Consistent.itemId_ne_empty (wellFormed_of_normalize hconfig).catalogue hfound
      hitem
  constructor
  · exact (Catalogue.totals_eq_charge_distinct_iff hitems).mpr fun o h => absurd h (hnone o)
  · exact Catalogue.menuLine_withOptionsOnce_iff.mpr fun o h => absurd h (hnone o)

/-- The options of a posted menu are those of its first entry, as often as they are listed there,
and so they are charged.  So the total is the sum with every option once exactly if the options that
are listed again cost nothing and take no time, and the line of the menus names every option once
exactly if they have no name. -/
theorem options_charged_as_listed {limits : Limits} {posted : Json} {sel : Selection}
    (hsel : Selection.ofJson limits posted = .ok sel) (catalogue : Catalogue) :
    (∀ menuId ∈ sel.menuIds, sel.optionsOf menuId =
      ((Selection.entryFor? menuId (Selection.entries posted)).map
        Selection.postedOptions).getD []) ∧
    catalogue.totals sel = catalogue.charge sel sel.optionsOf ∧
    (catalogue.totals sel = catalogue.charge sel (fun menuId => distinct (sel.optionsOf menuId)) ↔
      ∀ o, catalogue.ListsTwice sel o → o.price = 0 ∧ o.duration = 0) ∧
    (catalogue.menuLine sel = catalogue.menuLine sel.withOptionsOnce ↔
      ∀ o, catalogue.ListsTwice sel o → o.name = "") := by
  have htidy := Selection.isTidy_of_ofJson hsel
  have hitems := htidy.items.value_fits
  refine ⟨fun menuId hmem => Selection.optionsOf_of_ofJson hsel (htidy.menuId_ne menuId hmem),
    Catalogue.totals_eq_charge catalogue hitems, ?_, Catalogue.menuLine_withOptionsOnce_iff⟩
  rw [Catalogue.totals_eq_charge_distinct_iff hitems]
  exact forall₂_congr fun o _ => o.cost_eq_zero_iff

/-- A leaf with an option. -/
def salonWithWash : Json :=
  .obj [("menu_structure", .obj [("categories", .arr [
    .obj [("id", .str "hair"), ("name", .str "ヘア"), ("menus", .arr [
      .obj [("id", .str "cut"), ("name", .str "カット"), ("price", .int 4000),
        ("duration", .int 40), ("options", .arr [
          .obj [("id", .str "wash"), ("name", .str "シャンプー"), ("price", .int 500),
            ("duration", .int 10)]])]])]])])]

/-- Its configuration. -/
def washConfig : FormConfig := .ofStored ⟨salonWithWash, salonWithWash, .null⟩

/-- The leaf with some options under it. -/
def postedWith (optionIds : List String) : Json :=
  .obj [("menu_id", .str "cut"), ("option_ids", Json.arr (optionIds.map .str))]

/-- What is read of it. -/
def selectionWith (optionIds : List String) : Selection :=
  { Selection.empty with
    menuIds := ["cut"]
    selectedOptions := [("cut", optionIds)] }

/-- An id that leads to no option may be listed twice. -/
theorem options_charged_as_listed_unknown :
    normalize .standard (.value salonWithWash) = .ok washConfig ∧
      Selection.ofJson .standard (postedWith ["wash", "perm", "perm"]) =
        .ok (selectionWith ["wash", "perm", "perm"]) ∧
      washConfig.catalogue.totals (selectionWith ["wash", "perm", "perm"]) =
        washConfig.catalogue.charge (selectionWith ["wash", "perm", "perm"]) (fun menuId =>
          distinct ((selectionWith ["wash", "perm", "perm"]).optionsOf menuId)) := by
  have hread : Selection.ofJson .standard (postedWith ["wash", "perm", "perm"]) =
      .ok (selectionWith ["wash", "perm", "perm"]) := rfl
  obtain ⟨-, -, htotals, -⟩ := options_charged_as_listed hread washConfig.catalogue
  refine ⟨rfl, hread, htotals.mpr fun o htwice => ?_⟩
  have hnone : ((washConfig.catalogue.knownMenus (selectionWith ["wash", "perm", "perm"])).flatMap
      fun known => known.2.listed
        (repeats ((selectionWith ["wash", "perm", "perm"]).optionsOf known.2.id))) = [] := by
    decide +kernel
  obtain ⟨known, hknown, hlisted⟩ := Catalogue.listsTwice_iff.mp htwice
  rw [List.flatMap_eq_nil_iff.mp hnone known hknown] at hlisted
  exact absurd hlisted List.not_mem_nil

/-- An option that is posted twice is charged twice and named twice. -/
theorem option_charged_twice :
    normalize .standard (.value salonWithWash) = .ok washConfig ∧
      Selection.ofJson .standard (postedWith ["wash", "wash"]) =
        .ok (selectionWith ["wash", "wash"]) ∧
      washConfig.catalogue.totals (selectionWith ["wash", "wash"]) = ⟨5000, 60⟩ ∧
      washConfig.catalogue.charge (selectionWith ["wash", "wash"]) (fun menuId =>
        distinct ((selectionWith ["wash", "wash"]).optionsOf menuId)) = ⟨4500, 50⟩ ∧
      washConfig.catalogue.menuLine (selectionWith ["wash", "wash"]) =
        "ヘア > カット, シャンプー, シャンプー" ∧
      washConfig.catalogue.menuLine (selectionWith ["wash", "wash"]).withOptionsOnce =
        "ヘア > カット, シャンプー" := by
  refine ⟨rfl, rfl, ?_, ?_, ?_, ?_⟩ <;> decide +kernel

end SalonBooking
