import SalonBooking.Proofs.Data.Results
import SalonBooking.Proofs.Form.MenuIds

/-!
# The entries of a form

Whatever else stands in the lists of a configuration, each of their objects has
its entry in the form, in the same order, and there are no others: categories
with their menus, the options of a leaf or the items of a submenu, and the
questions that can be answered.

An entry is read by itself.  Where it stands matters only for an id that it is
not given, and for what that id is put into: the ids of the menus in a category
and the title of a question.

* `forall₂_readPositioned`, `forall₂_mapIdx`: lists that are read entry by entry.
* `MenuOption.IsOf`, `SubmenuItem.IsOf`, `Menu.IsOf`, `Category.IsOf`,
  `CustomField.IsOf`: what an entry is read to.
* `entries_kept`: the whole form.
-/

namespace SalonBooking

/-! ## Lists -/

section

variable {α β : Type}

/-- The objects of a list with their places among the objects. -/
def numbered (vs : List Json) : List (Nat × Json) :=
  (vs.filter Json.isObject).mapIdx Prod.mk

/-- Objects that are read with their places correspond to what they are read to. -/
theorem forall₂_readPositioned {R : Nat × Json → α → Prop} {read : Nat → Json → α}
    (h : ∀ entry : Nat × Json, R entry (read entry.1 entry.2)) (vs : List Json) :
    List.Forall₂ R (entries vs) (readPositioned read vs) := by
  rw [readPositioned_eq_map, List.forall₂_map_right_iff, List.forall₂_same]
  exact fun entry _ => h entry

theorem forall₂_mapIdx {R : Nat × Json → α → Prop} {read : Nat → Json → α}
    (h : ∀ entry : Nat × Json, R entry (read entry.1 entry.2)) (vs : List Json) :
    List.Forall₂ R (vs.mapIdx Prod.mk) (vs.mapIdx read) := by
  rw [List.mapIdx_eq_zipIdx_map, List.mapIdx_eq_zipIdx_map, List.forall₂_map_left_iff,
    List.forall₂_map_right_iff, List.forall₂_same]
  exact fun (v, i) _ => h (i, v)

/-- What is read of some items only corresponds to these. -/
theorem forall₂_filterMap {R : α → β → Prop} {p : α → Bool} {read : α → Option β}
    (hnone : ∀ a, p a = false → read a = none)
    (hsome : ∀ a, p a = true → ∃ b, read a = some b ∧ R a b) (as : List α) :
    List.Forall₂ R (as.filter p) (as.filterMap read) := by
  induction as with
  | nil => exact .nil
  | cons a rest ih =>
    cases hp : p a with
    | false => simpa [hp, hnone a hp] using ih
    | true =>
      obtain ⟨b, hb, hR⟩ := hsome a hp
      simpa [hp, hb] using And.intro hR ih

end

/-! ## Ids -/

/-- The id of an entry: the one that it is given, and one that is made if it is given none. -/
structure Json.HasId (v : Json) (made id : String) : Prop where
  given : v.givenId ≠ "" → id = v.givenId
  made : v.givenId = "" → id = made

theorem Json.hasId_orText (v : Json) (made : String) : v.HasId made (orText v.givenId made) where
  given h := orText_of_ne h made
  made h := by rw [h, orText_empty_left]

/-! ## Options and items -/

/-- What an option is read to. -/
structure MenuOption.IsOf (entry : Nat × Json) (o : MenuOption) : Prop where
  id : entry.2.HasId ("option-" ++ toString entry.1) o.id
  own : ∀ position, { MenuOption.ofJson position entry.2 with id := o.id } = o

/-- What an item of a submenu is read to. -/
structure SubmenuItem.IsOf (entry : Nat × Json) (item : SubmenuItem) : Prop where
  id : entry.2.HasId ("submenu-" ++ toString entry.1) item.id
  own : ∀ position, { SubmenuItem.ofJson position entry.2 with id := item.id } = item

theorem MenuOption.isOf_ofJson (entry : Nat × Json) : IsOf entry (ofJson entry.1 entry.2) where
  id := entry.2.hasId_orText _
  own _ := rfl

theorem SubmenuItem.isOf_ofJson (entry : Nat × Json) : IsOf entry (ofJson entry.1 entry.2) where
  id := entry.2.hasId_orText _
  own _ := rfl

/-! ## Menus -/

/-- A menu has a submenu to open: it says so, and one of the items is an object. -/
def Json.OpensSubmenu (v : Json) : Prop :=
  (v.get "has_submenu").boolOr false = true ∧
    ∃ item ∈ (v.get "sub_menu_items").items, item.isObject = true

namespace Menu

/-- A menu with another id. -/
def withId (id : String) : Menu → Menu
  | .leaf menu => .leaf { menu with id := id }
  | .submenu menu => .submenu { menu with id := id }

/-- A menu opens a submenu only if it has one to open, and then it has the items, otherwise the
options that stand there. -/
def IsFilledFrom (v : Json) : Menu → Prop
  | .leaf menu => ¬ v.OpensSubmenu ∧
    List.Forall₂ MenuOption.IsOf (numbered (v.get "options").items) menu.options
  | .submenu menu => v.OpensSubmenu ∧
    List.Forall₂ SubmenuItem.IsOf (numbered (v.get "sub_menu_items").items) menu.items

/-- What a menu of a category is read to. -/
structure IsOf (categoryId : String) (entry : Nat × Json) (menu : Menu) : Prop where
  id : entry.2.HasId (categoryId ++ "-menu-" ++ toString entry.1) menu.id
  filled : menu.IsFilledFrom entry.2
  own : ∀ fallbackId, (Menu.ofJson fallbackId entry.2).withId menu.id = menu

theorem withId_id (menu : Menu) : menu.withId menu.id = menu := by
  cases menu <;> rfl

/-- Only the id of a menu depends on the one that is made for it. -/
theorem withId_ofJson (id fallbackId other : String) (v : Json) :
    (Menu.ofJson fallbackId v).withId id = (Menu.ofJson other v).withId id := by
  simp only [Menu.ofJson]
  split <;> rfl

theorem isFilledFrom_ofJson (fallbackId : String) (v : Json) :
    (Menu.ofJson fallbackId v).IsFilledFrom v := by
  have hopens : ((v.get "has_submenu").boolOr false &&
      !((v.get "sub_menu_items").items.filter Json.isObject).isEmpty) = true ↔ v.OpensSubmenu := by
    simp [Json.OpensSubmenu, List.filter_eq_nil_iff]
  simp only [Menu.ofJson]
  split
  · rename_i hsubmenu
    exact ⟨hopens.mp hsubmenu, forall₂_mapIdx SubmenuItem.isOf_ofJson _⟩
  · rename_i hleaf
    exact ⟨fun h => hleaf (hopens.mpr h), forall₂_mapIdx MenuOption.isOf_ofJson _⟩

theorem isOf_ofJson (categoryId : String) (entry : Nat × Json) :
    IsOf categoryId entry (Menu.ofJson (categoryId ++ "-menu-" ++ toString entry.1) entry.2) where
  id := by
    rw [Menu.id_ofJson]
    exact entry.2.hasId_orText _
  filled := isFilledFrom_ofJson _ _
  own fallbackId := by rw [withId_ofJson _ fallbackId, withId_id]

end Menu

/-! ## Categories -/

namespace Category

/-- A category without its id and those of its menus. -/
def withoutIds (category : Category) : Category :=
  { category with id := "", menus := category.menus.map (Menu.withId "") }

/-- What a category is read to. -/
structure IsOf (entry : Nat × Json) (category : Category) : Prop where
  id : entry.2.HasId ("category-" ++ toString entry.1) category.id
  menus : List.Forall₂ (Menu.IsOf category.id) (entries (entry.2.get "menus").items) category.menus
  own : ∀ position, (Category.ofJson position entry.2).withoutIds = category.withoutIds

theorem menus_ofJson (position : Nat) (v : Json) : (Category.ofJson position v).menus =
    readPositioned
      (fun i => Menu.ofJson ((Category.ofJson position v).id ++ "-menu-" ++ toString i))
      (v.get "menus").items := rfl

/-- Only the ids in a category depend on its place. -/
theorem withoutIds_ofJson (position other : Nat) (v : Json) :
    (Category.ofJson position v).withoutIds = (Category.ofJson other v).withoutIds := by
  simp only [withoutIds, Category.ofJson, readPositioned_eq_map, List.map_map]
  congr 1
  exact List.map_congr_left fun menu _ => Menu.withId_ofJson _ _ _ _

theorem isOf_ofJson (entry : Nat × Json) : IsOf entry (Category.ofJson entry.1 entry.2) where
  id := entry.2.hasId_orText _
  menus := by
    rw [menus_ofJson]
    exact forall₂_readPositioned (Menu.isOf_ofJson _) _
  own position := withoutIds_ofJson position entry.1 entry.2

end Category

/-! ## Questions -/

/-- Whether an entry has a choice with a value or a label. -/
def Json.offersChoice (v : Json) : Bool :=
  (v.get "options").items.any fun option =>
    option.isObject && !((option.get "value").asText.isEmpty && (option.get "label").asText.isEmpty)

/-- Whether an entry is a question that can be answered: its kind is known, and it offers a choice
if it is answered by choosing. -/
def Json.isQuestion (v : Json) : Bool :=
  match FieldKind.ofName? (v.get "type").asText with
  | some kind => !kind.hasChoices || v.offersChoice
  | none => false

/-- A value or a label is enough for a choice. -/
theorem Choice.ofJson?_eq_none_iff {v : Json} : Choice.ofJson? v = none ↔
    ((v.get "value").asText.isEmpty && (v.get "label").asText.isEmpty) = true := by
  simp only [Choice.ofJson?]
  -- The label falls back to the value, which adds nothing where there is none.
  by_cases hvalue : (v.get "value").asText = ""
  · rw [hvalue]
    show (if (_ && (v.get "label").asText.isEmpty) = true then none else some _) = none ↔ _
    simp
  · simp [hvalue]

theorem isEmpty_readChoices (v : Json) :
    (readChoices [] (v.get "options")).isEmpty = !v.offersChoice := by
  have hread : readChoices [] (v.get "options") =
      ((v.get "options").items.filter Json.isObject).filterMap Choice.ofJson? := by
    simp only [readChoices]
    split
    · rename_i hnone
      exact (List.isEmpty_iff.mp hnone).symm
    · rfl
  rw [hread, Bool.eq_iff_iff, List.isEmpty_iff, List.filterMap_eq_nil_iff]
  simp only [Choice.ofJson?_eq_none_iff, Json.offersChoice, List.mem_filter, List.any_eq_false,
    Bool.and_eq_true, Bool.not_eq_eq_eq_not, Bool.not_true, and_imp, not_and, Bool.not_eq_false]

namespace CustomField

/-- What a question is read to. -/
structure IsOf (entry : Nat × Json) (field : CustomField) : Prop where
  id : entry.2.HasId ("field-" ++ toString entry.1) field.id
  title : field.title = orText (entry.2.get "title").asText field.id
  own : ∀ position, ∃ read, CustomField.ofJson? position entry.2 = some read ∧
    { read with id := field.id, title := field.title } = field

variable {v : Json}

theorem ofJson?_of_not_isQuestion (h : v.isQuestion = false) (position : Nat) :
    CustomField.ofJson? position v = none := by
  rw [Json.isQuestion] at h
  rw [CustomField.ofJson?]
  cases hkind : FieldKind.ofName? (v.get "type").asText with
  | none => rfl
  | some kind =>
    simp only [hkind, Bool.or_eq_false_iff, Bool.not_eq_false'] at h
    simp [isEmpty_readChoices, h]

/-- A question is read with everything that it says, and only its id is made from its place. -/
theorem exists_ofJson?_eq (h : v.isQuestion = true) : ∃ kind, ∀ position,
    let id := orText v.givenId ("field-" ++ toString position)
    CustomField.ofJson? position v = some ⟨id, orText (v.get "title").asText id, kind,
      (v.get "required").boolOr false, (v.get "placeholder").asText,
      readChoices [] (v.get "options")⟩ := by
  rw [Json.isQuestion] at h
  cases hkind : FieldKind.ofName? (v.get "type").asText with
  | none => simp [hkind] at h
  | some kind =>
    refine ⟨kind, fun position => ?_⟩
    have hchoices : ¬ (kind.hasChoices && (readChoices [] (v.get "options")).isEmpty) = true := by
      rw [isEmpty_readChoices]
      simpa [hkind, or_iff_not_imp_left] using h
    rw [CustomField.ofJson?, hkind]
    simp only [Option.bind_eq_bind, Option.bind_some, if_neg hchoices]
    rfl

theorem exists_isOf (entry : Nat × Json) (h : entry.2.isQuestion = true) :
    ∃ field, CustomField.ofJson? entry.1 entry.2 = some field ∧ IsOf entry field := by
  obtain ⟨kind, hread⟩ := exists_ofJson?_eq h
  refine ⟨_, hread entry.1, entry.2.hasId_orText _, rfl, fun position => ⟨_, hread position, rfl⟩⟩

end CustomField

/-! ## The whole form -/

/-- The questions as they are stored, with their places. -/
def StoredForm.questions (form : StoredForm) : List (Nat × Json) :=
  (entries (form.config.get "custom_fields").items).filter fun entry => entry.2.isQuestion

theorem forall₂_readCustomFields (v : Json) : List.Forall₂ CustomField.IsOf
    ((entries v.items).filter fun entry => entry.2.isQuestion) (readCustomFields v) := by
  have hread : readCustomFields v =
      (entries v.items).filterMap fun entry => CustomField.ofJson? entry.1 entry.2 := by
    rw [readCustomFields, readPositioned_eq_map, List.filterMap_map]
    rfl
  rw [hread]
  exact forall₂_filterMap (fun entry h => CustomField.ofJson?_of_not_isQuestion h entry.1)
    CustomField.exists_isOf _

/-- A form has a category for each object in the list of categories, with a menu for each object in
its list and an option or an item for each object in the list of the menu, and a field for each
question, all of them in order.  They keep the ids that they are given; only the other ids, and what
is made from these, depend on where an entry stands. -/
theorem entries_kept {limits : Limits} {source : Source} {config : FormConfig}
    (h : normalize limits source = .ok config) :
    ∃ form, StoredForm.ofSource limits source = .ok form ∧
      List.Forall₂ Category.IsOf (entries form.categories) config.catalogue.categories ∧
      List.Forall₂ CustomField.IsOf form.questions config.customFields := by
  obtain ⟨form, hform, -, rfl⟩ := normalize_eq_ok_iff.mp h
  exact ⟨form, hform, forall₂_readPositioned Category.isOf_ofJson form.categories,
    forall₂_readCustomFields _⟩

/-- A record in which little is as it should be: a category without an id behind what is no
category, with a leaf and a submenu, and a question behind one that offers nothing to choose. -/
def clutteredRecord : Json :=
  .obj [("menu_structure", .obj [("categories", .arr [
      .null,
      .obj [("menus", .arr [
        .str "cut",
        .obj [("has_submenu", .str "yes"), ("sub_menu_items", .arr [.int 1]),
          ("options", .arr [.null, .obj [("price", .int 500)], .obj [("id", .int 7)]])],
        .obj [("id", .str "color"), ("has_submenu", .bool true),
          ("sub_menu_items", .arr [.bool true, .obj []])]])]])]),
    ("config", .obj [("custom_fields", .arr [
      .obj [("type", .str "radio"), ("options", .arr [.obj []])],
      .obj [("type", .str "text")]])])]

/-- The ids of its options and items. -/
def Menu.insideIds : Menu → List String
  | .leaf menu => menu.options.map MenuOption.id
  | .submenu menu => menu.items.map SubmenuItem.id

theorem entries_kept_clutteredRecord :
    ∃ config, normalize .standard (.value clutteredRecord) = .ok config ∧
      config.catalogue.menuIds = ["category-1-menu-1", "color"] ∧
      (config.catalogue.menus.map fun found => found.2.insideIds) =
        [["option-0", "7"], ["submenu-0"]] ∧
      config.customFields.map CustomField.title = ["field-1"] ∧
      ∃ form, StoredForm.ofSource .standard (.value clutteredRecord) = .ok form ∧
        List.Forall₂ Category.IsOf (entries form.categories) config.catalogue.categories ∧
        List.Forall₂ CustomField.IsOf form.questions config.customFields := by
  have hconfig : normalize .standard (.value clutteredRecord) = .ok _ := rfl
  exact ⟨_, hconfig, by decide +kernel, by decide +kernel, by decide +kernel, entries_kept hconfig⟩

end SalonBooking
