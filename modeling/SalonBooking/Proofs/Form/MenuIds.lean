import Mathlib.Data.List.Nodup
import SalonBooking.Proofs.Booking.Phase
import SalonBooking.Proofs.Form.WellFormed
import SalonBooking.Proofs.Text.Digits
import SalonBooking.Proofs.Text.Split

/-!
# The ids of menus

A menu is selected and found by its id.  A menu that is given none gets one that
is made of the id of its category and of its position there, and a category
that is given none gets one from its position; so both kinds of ids are texts
that a salon can also give by itself.

The ids of a form's menus are therefore distinct exactly if the given ones are
and two things do not happen: that an id that is made is also given, and that a
category is given the id that another has from its position while both have a
menu without an id in the same place.

* `StoredForm.menus`: the menus of a form as they are stored, with their places.
* `StoredForm.menuIds_ofStored`: their ids are those of the catalogue.
* `Catalogue.findMenu?_of_nodup`: where the ids are distinct, every menu is found by its own.
* `menuIds_distinct_iff`: when they are.
-/

namespace SalonBooking

/-! ## Places in a list -/

/-- What is read at a later place comes later. -/
theorem pairwise_readPositioned {α : Type} {R : α → α → Prop} {read : Nat → Json → α}
    (h : ∀ i j v w, i < j → R (read i v) (read j w)) (vs : List Json) :
    (readPositioned read vs).Pairwise R := by
  induction vs generalizing read with
  | nil => exact .nil
  | cons v rest ih =>
    have hrest : (readPositioned (fun i => read (i + 1)) rest).Pairwise R :=
      ih fun i j v w hlt => h (i + 1) (j + 1) v w (by omega)
    rw [readPositioned_cons]
    cases v.isObject with
    | false => exact hrest
    | true =>
      refine List.pairwise_cons.mpr ⟨fun a ha => ?_, hrest⟩
      obtain ⟨i, w, -, rfl⟩ := exists_of_mem_readPositioned ha
      exact h 0 (i + 1) v w (by omega)

/-- The objects of a list with their places. -/
def entries (vs : List Json) : List (Nat × Json) :=
  readPositioned Prod.mk vs

theorem readPositioned_eq_map {α : Type} (read : Nat → Json → α) (vs : List Json) :
    readPositioned read vs = (entries vs).map fun entry => read entry.1 entry.2 := by
  rw [entries, readPositioned, readPositioned, List.map_filterMap]
  refine List.filterMap_congr ?_
  rintro ⟨i, v⟩ -
  show (if v.isObject then some (read i v) else none) =
    Option.map _ (if v.isObject then some (i, v) else none)
  split <;> rfl

theorem pairwise_entries (vs : List Json) :
    (entries vs).Pairwise fun entry entry' => entry.1 < entry'.1 := by
  refine pairwise_readPositioned (R := fun entry entry' : Nat × Json => entry.1 < entry'.1) ?_ vs
  exact fun _ _ _ _ hlt => hlt

/-- A place has one entry. -/
theorem entries_inj {vs : List Json} {entry entry' : Nat × Json} (h : entry ∈ entries vs)
    (h' : entry' ∈ entries vs) (heq : entry.1 = entry'.1) : entry = entry' := by
  have hplaces : ((entries vs).map Prod.fst).Nodup :=
    List.pairwise_map.mpr ((pairwise_entries vs).imp Nat.ne_of_lt)
  exact List.inj_on_of_nodup_map hplaces h h' heq

theorem nodup_entries (vs : List Json) : (entries vs).Nodup :=
  (pairwise_entries vs).imp fun hlt heq => absurd (congrArg Prod.fst heq) (Nat.ne_of_lt hlt)

/-! ## Stored menus -/

/-- The id that an entry is given, empty if it is given none. -/
def Json.givenId (v : Json) : String :=
  (v.get "id").asText

/-- The ids among some texts; an empty one is none. -/
def givenIds (texts : List String) : List String :=
  texts.filter fun text => !text.isEmpty

/-- The place of a menu in a form as it is stored, and the ids that are given there. -/
structure StoredMenu where
  categoryPosition : Nat
  categoryGiven : String
  position : Nat
  given : String
  deriving DecidableEq, Repr

namespace StoredMenu

/-- The id of the category. -/
def categoryId (m : StoredMenu) : String :=
  orText m.categoryGiven ("category-" ++ toString m.categoryPosition)

/-- The id that is made for the menu if it is given none. -/
def fallbackId (m : StoredMenu) : String :=
  m.categoryId ++ "-menu-" ++ toString m.position

/-- The id of the menu. -/
def id (m : StoredMenu) : String :=
  orText m.given m.fallbackId

/-- Whether two menus get one id: neither is given one, they have the same place in their
categories, and the second category is given the id that is made for the first. -/
def Clashes (m m' : StoredMenu) : Prop :=
  m.given = "" ∧ m'.given = "" ∧ m.position = m'.position ∧ m.categoryGiven = "" ∧
    m'.categoryGiven = m.categoryId

end StoredMenu

namespace StoredForm

variable (form : StoredForm)

/-- The categories as they are stored, those of the record if the configuration has none. -/
def categories : List Json :=
  let own := ((form.config.get "menu_structure").get "categories").items
  if own.isEmpty then ((form.record.get "menu_structure").get "categories").items else own

/-- The menus as they are stored. -/
def menus : List StoredMenu :=
  (entries form.categories).flatMap fun category =>
    (entries (category.2.get "menus").items).map fun menu =>
      ⟨category.1, category.2.givenId, menu.1, menu.2.givenId⟩

/-- The ids that are given to categories. -/
def givenCategoryIds : List String :=
  givenIds ((entries form.categories).map fun category => category.2.givenId)

/-- The ids that are given to menus. -/
def givenMenuIds : List String :=
  givenIds (form.menus.map StoredMenu.given)

end StoredForm

/-- The ids of all menus. -/
def Catalogue.menuIds (catalogue : Catalogue) : List String :=
  catalogue.categories.flatMap fun category => category.menus.map Menu.id

theorem Menu.id_ofJson (fallbackId : String) (v : Json) :
    (Menu.ofJson fallbackId v).id = orText v.givenId fallbackId := by
  rw [Menu.ofJson]
  split <;> rfl

/-- The menus of a form have the ids that they are stored or placed with. -/
theorem StoredForm.menuIds_ofStored (form : StoredForm) :
    (FormConfig.ofStored form).catalogue.menuIds = form.menus.map StoredMenu.id := by
  have hcategories : (FormConfig.ofStored form).catalogue.categories =
      readPositioned Category.ofJson form.categories := rfl
  rw [Catalogue.menuIds, hcategories, readPositioned_eq_map, StoredForm.menus, List.flatMap_map,
    List.map_flatMap]
  refine List.flatMap_congr fun category _ => ?_
  simp only [Category.ofJson, readPositioned_eq_map, List.map_map, Function.comp_def,
    Menu.id_ofJson]
  rfl

/-! ## Looking menus up by distinct ids -/

namespace Catalogue

variable {catalogue : Catalogue} {category : Category} {menu : Menu}

/-- All menus with their categories. -/
def menus (catalogue : Catalogue) : List (Category × Menu) :=
  catalogue.categories.flatMap fun category => category.menus.map fun menu => (category, menu)

theorem mem_menus : (category, menu) ∈ catalogue.menus ↔
    category ∈ catalogue.categories ∧ menu ∈ category.menus := by
  simp [menus]

theorem menuIds_eq_map (catalogue : Catalogue) :
    catalogue.menuIds = catalogue.menus.map fun found => found.2.id := by
  simp only [menuIds, menus, List.map_flatMap, List.map_map, Function.comp_def]

/-- Every id of a menu finds one. -/
theorem exists_findMenu? (hcategory : category ∈ catalogue.categories)
    (hmenu : menu ∈ category.menus) : ∃ found, catalogue.findMenu? menu.id = some found := by
  cases hfound : catalogue.findMenu? menu.id with
  | some found => exact ⟨found, rfl⟩
  | none =>
    have hnone := List.findSome?_eq_none_iff.mp hfound category hcategory
    have hother := List.find?_eq_none.mp (Option.map_eq_none_iff.mp hnone) menu hmenu
    exact absurd (beq_self_eq_true menu.id) hother

/-- Where ids are distinct every menu is found by its own, with its category. -/
theorem findMenu?_of_nodup (h : catalogue.menuIds.Nodup)
    (hcategory : category ∈ catalogue.categories)
    (hmenu : menu ∈ category.menus) : catalogue.findMenu? menu.id = some (category, menu) := by
  obtain ⟨⟨other, found⟩, hfound⟩ := exists_findMenu? hcategory hmenu
  obtain ⟨hother, hmem, hid⟩ := mem_of_findMenu? hfound
  rw [menuIds_eq_map] at h
  rw [hfound, List.inj_on_of_nodup_map h (mem_menus.mpr ⟨hother, hmem⟩)
    (mem_menus.mpr ⟨hcategory, hmenu⟩) hid]

end Catalogue

/-! ## Ids that are made -/

/-- A list has no repetitions exactly if neither its items with a property nor the others have any,
and none of these is also one of those. -/
theorem nodup_map_iff_split {α β : Type} (f : α → β) (p : α → Bool) (as : List α) :
    (as.map f).Nodup ↔ ((as.filter p).map f).Nodup ∧ ((as.filter fun a => !p a).map f).Nodup ∧
      ∀ a ∈ as, p a = false → f a ∉ (as.filter p).map f := by
  have hsplit := (List.filter_append_perm p as).map f
  rw [← hsplit.nodup_iff, List.map_append, List.nodup_append']
  refine and_congr_right fun _ => and_congr_right fun _ => ⟨fun h a ha hpa hmem => ?_, ?_⟩
  · exact h hmem (List.mem_map_of_mem (List.mem_filter.mpr ⟨ha, by rw [hpa]; rfl⟩))
  · intro h b hmem hother
    obtain ⟨a, ha, rfl⟩ := List.mem_map.mp hother
    obtain ⟨ha, hpa⟩ := List.mem_filter.mp ha
    exact h a ha (by simpa using hpa) hmem

theorem toString_inj {m n : Nat} (h : toString m = toString n) : m = n := by
  have hvalues := congrArg (fun digits => Nat.ofDigitChars 10 digits.toList 0) h
  simpa [Nat.toString_eq_ofList_toDigits] using hvalues

theorem dash_notMem_toString (n : Nat) : '-' ∉ (toString n).toList := by
  intro h
  exact absurd (Text.isDigit_of_mem_toString h) (by decide)

/-- The number at the end of an id that is made is the place, and before it stands the category. -/
theorem numbered_inj {before before' : String} {m n : Nat}
    (h : before ++ "-menu-" ++ toString m = before' ++ "-menu-" ++ toString n) :
    before = before' ∧ m = n := by
  have hchars := congrArg String.toList h
  simp only [String.toList_append] at hchars
  have hdash (cs ds : List Char) :
      cs ++ "-menu-".toList ++ ds = (cs ++ "-menu".toList) ++ '-' :: ds := by
    rw [List.append_assoc, List.append_assoc]
    rfl
  rw [hdash, hdash] at hchars
  obtain ⟨hbefore, hnumber⟩ := Text.append_separator_inj_right (dash_notMem_toString m)
    (dash_notMem_toString n) hchars
  exact ⟨String.toList_inj.mp (List.append_cancel_right hbefore),
    toString_inj (String.toList_inj.mp hnumber)⟩

namespace StoredMenu

variable {m m' : StoredMenu}

theorem fallbackId_eq_iff :
    m.fallbackId = m'.fallbackId ↔ m.categoryId = m'.categoryId ∧ m.position = m'.position := by
  refine ⟨numbered_inj, fun ⟨hcategory, hposition⟩ => ?_⟩
  rw [fallbackId, fallbackId, hcategory, hposition]

theorem id_of_given (h : m.given.isEmpty = false) : m.id = m.given := by
  rw [id, orText, h]
  rfl

theorem id_of_not_given (h : m.given.isEmpty = true) : m.id = m.fallbackId := by
  rw [id, orText, h]
  rfl

end StoredMenu

namespace StoredForm

variable {form : StoredForm} {m m' : StoredMenu}

theorem mem_menus : m ∈ form.menus ↔ ∃ category ∈ entries form.categories,
    ∃ menu ∈ entries (category.2.get "menus").items,
      m = ⟨category.1, category.2.givenId, menu.1, menu.2.givenId⟩ := by
  simp only [menus, List.mem_flatMap, List.mem_map, eq_comm]

/-- Two places have different menus. -/
theorem eq_of_places (hm : m ∈ form.menus) (hm' : m' ∈ form.menus)
    (hcategory : m.categoryPosition = m'.categoryPosition) (hposition : m.position = m'.position) :
    m = m' := by
  obtain ⟨category, hc, menu, hmenu, rfl⟩ := mem_menus.mp hm
  obtain ⟨category', hc', menu', hmenu', rfl⟩ := mem_menus.mp hm'
  obtain rfl := entries_inj hc hc' hcategory
  obtain rfl := entries_inj hmenu hmenu' hposition
  rfl

/-- No menu is stored twice. -/
theorem nodup_menus (form : StoredForm) : form.menus.Nodup := by
  rw [menus, List.nodup_flatMap]
  refine ⟨fun category _ => ?_,
    (pairwise_entries form.categories).imp fun {c c'} hlt m hm hm' => ?_⟩
  · refine (nodup_entries _).map_on fun menu hmenu menu' hmenu' heq => ?_
    exact entries_inj hmenu hmenu' (congrArg StoredMenu.position heq)
  · obtain ⟨menu, -, rfl⟩ := List.mem_map.mp hm
    obtain ⟨menu', -, heq⟩ := List.mem_map.mp hm'
    exact absurd (congrArg StoredMenu.categoryPosition heq) (Nat.ne_of_gt hlt)

/-- Where the given ids of categories are distinct, categories of one id have one place, or one is
given the id that is made for the other. -/
theorem place_or_clash (hgiven : form.givenCategoryIds.Nodup) (hm : m ∈ form.menus)
    (hm' : m' ∈ form.menus) (heq : m.categoryId = m'.categoryId) :
    m.categoryPosition = m'.categoryPosition ∨
      m.categoryGiven = "" ∧ m'.categoryGiven = m.categoryId ∨
      m'.categoryGiven = "" ∧ m.categoryGiven = m'.categoryId := by
  obtain ⟨category, hcategory, menu, -, rfl⟩ := mem_menus.mp hm
  obtain ⟨category', hcategory', menu', -, rfl⟩ := mem_menus.mp hm'
  simp only [StoredMenu.categoryId] at heq ⊢
  by_cases hnone : category.2.givenId = "" <;> by_cases hnone' : category'.2.givenId = ""
  · rw [hnone, hnone', orText_empty_left, orText_empty_left, String.append_right_inj] at heq
    exact .inl (toString_inj heq)
  · rw [orText_of_ne hnone'] at heq
    exact .inr (.inl ⟨hnone, heq.symm⟩)
  · rw [orText_of_ne hnone] at heq
    exact .inr (.inr ⟨hnone', heq⟩)
  · rw [orText_of_ne hnone, orText_of_ne hnone'] at heq
    rw [givenCategoryIds, givenIds, List.filter_map] at hgiven
    have hmem : ∀ c ∈ entries form.categories, c.2.givenId ≠ "" →
        c ∈ (entries form.categories).filter
        ((fun text : String => !text.isEmpty) ∘ fun c => c.2.givenId) := fun c hc hne =>
      List.mem_filter.mpr ⟨hc, by simpa using hne⟩
    have hsame := List.inj_on_of_nodup_map hgiven (hmem _ hcategory hnone)
      (hmem _ hcategory' hnone') heq
    exact .inl (congrArg Prod.fst hsame)

/-- Where the given ids of categories are distinct, the ids that are made are exactly if no two
menus clash. -/
theorem nodup_fallbackIds_iff (hgiven : form.givenCategoryIds.Nodup) :
    ((form.menus.filter fun m => m.given.isEmpty).map StoredMenu.fallbackId).Nodup ↔
      ∀ m ∈ form.menus, ∀ m' ∈ form.menus, ¬ m.Clashes m' := by
  have hmem : ∀ m : StoredMenu, m ∈ (form.menus.filter fun m => m.given.isEmpty) ↔
      m ∈ form.menus ∧ m.given = "" := fun m => by
    rw [List.mem_filter, String.isEmpty_iff]
  rw [List.nodup_map_iff_inj_on ((nodup_menus form).filter _)]
  refine ⟨fun h m hm m' hm' hclash => ?_, fun h m hm m' hm' heq => ?_⟩
  · obtain ⟨hnone, hnone', hposition, hcategory, hcategory'⟩ := hclash
    have hmade : m.categoryId ≠ "" := by
      rw [StoredMenu.categoryId, hcategory, orText_empty_left]
      exact append_ne_empty (by decide) _
    have hid : m'.categoryId = m.categoryId := by
      rw [StoredMenu.categoryId, hcategory', orText_of_ne hmade]
    have hsame := h m ((hmem m).mpr ⟨hm, hnone⟩) m' ((hmem m').mpr ⟨hm', hnone'⟩)
      (StoredMenu.fallbackId_eq_iff.mpr ⟨hid.symm, hposition⟩)
    rw [← hsame, hcategory] at hcategory'
    exact hmade hcategory'.symm
  · obtain ⟨hm, hnone⟩ := (hmem m).mp hm
    obtain ⟨hm', hnone'⟩ := (hmem m').mp hm'
    obtain ⟨hcategory, hposition⟩ := StoredMenu.fallbackId_eq_iff.mp heq
    rcases place_or_clash hgiven hm hm' hcategory with hplace | ⟨hmade, hother⟩ | ⟨hmade, hother⟩
    · exact eq_of_places hm hm' hplace hposition
    · exact absurd ⟨hnone, hnone', hposition, hmade, hother⟩ (h m hm m' hm')
    · exact absurd ⟨hnone', hnone, hposition.symm, hmade, hother⟩ (h m' hm' m hm)

/-- Where the given ids are distinct, the ids of the menus are exactly if no id that is made is
given and no two menus clash. -/
theorem nodup_ids_iff (hcategories : form.givenCategoryIds.Nodup)
    (hmenus : form.givenMenuIds.Nodup) :
    (form.menus.map StoredMenu.id).Nodup ↔
      (∀ m ∈ form.menus, m.given = "" → m.fallbackId ∉ form.givenMenuIds) ∧
      ∀ m ∈ form.menus, ∀ m' ∈ form.menus, ¬ m.Clashes m' := by
  have hgiven : (form.menus.filter fun m => !m.given.isEmpty).map StoredMenu.id =
      form.givenMenuIds := by
    rw [givenMenuIds, givenIds, List.filter_map]
    refine List.map_congr_left fun m hm => StoredMenu.id_of_given ?_
    simpa using (List.mem_filter.mp hm).2
  have hmade : (form.menus.filter fun m => !!m.given.isEmpty).map StoredMenu.id =
      (form.menus.filter fun m => m.given.isEmpty).map StoredMenu.fallbackId := by
    simp only [Bool.not_not]
    exact List.map_congr_left fun m hm => StoredMenu.id_of_not_given (List.mem_filter.mp hm).2
  have hapart : (∀ m ∈ form.menus, (!m.given.isEmpty) = false → m.id ∉ form.givenMenuIds) ↔
      ∀ m ∈ form.menus, m.given = "" → m.fallbackId ∉ form.givenMenuIds := by
    refine forall₂_congr fun m _ => ?_
    rw [Bool.not_eq_false', String.isEmpty_iff]
    refine forall_congr' fun hnone => ?_
    rw [StoredMenu.id_of_not_given (String.isEmpty_iff.mpr hnone)]
  rw [nodup_map_iff_split StoredMenu.id fun m => !m.given.isEmpty, hgiven, hmade,
    nodup_fallbackIds_iff hcategories, hapart]
  exact ⟨fun ⟨_, hclash, hmade⟩ => ⟨hmade, hclash⟩, fun ⟨hmade, hclash⟩ => ⟨hmenus, hclash, hmade⟩⟩

end StoredForm

/-- Where the texts of a form can be taken and the given ids are distinct, there is a form, and the
ids of all its menus are distinct exactly if no id that is made is also given, and no category is
given the id that is made for another while both have a menu without an id in one place.  Then every
menu is found by its id, with its own category. -/
theorem menuIds_distinct_iff {limits : Limits} {source : Source} {form : StoredForm}
    (hform : StoredForm.ofSource limits source = .ok form)
    (htexts : form.texts.all (Json.hasText limits) = true)
    (hcategories : form.givenCategoryIds.Nodup) (hmenus : form.givenMenuIds.Nodup) :
    ∃ config, normalize limits source = .ok config ∧
      config.catalogue.menuIds = form.menus.map StoredMenu.id ∧
      (config.catalogue.menuIds.Nodup ↔
        (∀ m ∈ form.menus, m.given = "" → m.fallbackId ∉ form.givenMenuIds) ∧
        ∀ m ∈ form.menus, ∀ m' ∈ form.menus, ¬ m.Clashes m') ∧
      (config.catalogue.menuIds.Nodup →
        ∀ category ∈ config.catalogue.categories, ∀ menu ∈ category.menus,
          config.catalogue.findMenu? menu.id = some (category, menu)) := by
  have hids := form.menuIds_ofStored
  refine ⟨_, normalize_eq_ok_iff.mpr ⟨form, hform, htexts, rfl⟩, hids, ?_, ?_⟩
  · rw [hids]
    exact StoredForm.nodup_ids_iff hcategories hmenus
  · intro hnodup category hcategory menu hmenu
    exact Catalogue.findMenu?_of_nodup hnodup hcategory hmenu

/-- A form with two categories: the first has a menu without an id and one with the given id, the
second a menu without an id. -/
def threeMenus (categoryId menuId otherCategoryId : String) : Json :=
  .obj [("basic_info", .obj []), ("menu_structure", .obj [("categories", .arr [
    .obj [("id", .str categoryId), ("menus", .arr [
      .obj [("price", .int 5000)], .obj [("id", .str menuId), ("price", .int 1000)]])],
    .obj [("id", .str otherCategoryId), ("menus", .arr [.obj []])]])])]

/-- Menus with and without ids, all found by distinct ones. -/
theorem menuIds_distinct_threeMenus :
    ∃ config, normalize .standard (.value (threeMenus "hair" "cut" "")) = .ok config ∧
      config.catalogue.menuIds = ["hair-menu-0", "cut", "category-1-menu-0"] ∧
      ∀ category ∈ config.catalogue.categories, ∀ menu ∈ category.menus,
        config.catalogue.findMenu? menu.id = some (category, menu) := by
  have hform : StoredForm.ofSource .standard (.value (threeMenus "hair" "cut" "")) = .ok _ := rfl
  obtain ⟨config, hconfig, hids, -, hfound⟩ :=
    menuIds_distinct_iff hform (by decide +kernel) (by decide +kernel) (by decide +kernel)
  have hlist : config.catalogue.menuIds = ["hair-menu-0", "cut", "category-1-menu-0"] := by
    rw [hids]
    decide +kernel
  exact ⟨config, hconfig, hlist, hfound (by rw [hlist]; decide)⟩

/-- The ids that a configuration gives are distinct, but one of its menus is not found by its id. -/
def LosesMenu (raw : Json) : Prop :=
  ∃ form, StoredForm.ofSource .standard (.value raw) = .ok form ∧
    form.givenCategoryIds.Nodup ∧ form.givenMenuIds.Nodup ∧
    ∃ config, normalize .standard (.value raw) = .ok config ∧ ¬ config.catalogue.menuIds.Nodup ∧
      ∃ category ∈ config.catalogue.categories, ∃ menu ∈ category.menus,
        config.catalogue.findMenu? menu.id ≠ some (category, menu)

/-- A menu is lost where the id that is made for another menu is given to it, or the id that is made
for another category to its own. -/
theorem menuIds_not_distinct :
    LosesMenu (threeMenus "hair" "hair-menu-0" "") ∧ LosesMenu (threeMenus "" "" "category-0") := by
  constructor
  · exact ⟨_, rfl, by decide +kernel, by decide +kernel, _, rfl, by decide +kernel⟩
  · exact ⟨_, rfl, by decide +kernel, by decide +kernel, _, rfl, by decide +kernel⟩

end SalonBooking
