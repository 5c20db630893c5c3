import Mathlib.Data.List.Nodup
import SalonBooking.Proofs.Page.Controls
import SalonBooking.Proofs.Page.Readable

/-!
# The ids of a page

The script finds the elements of a page by their ids.  Some ids are fixed, each
with a condition under which its block is there.  The others are made from the ids
of the salon's questions and menus, which may be any texts; what they begin with
keeps them apart from the fixed ones.

* `ids_fields`: what the ids of the blocks are.
* `ids_scriptedTree`: the ids of a page are those of its blocks, one block after the
  other.
* `flatten_blockIds_perm`: they are the fixed ids whose block is there, and the made
  ones.
* `count_blockIds`: a fixed id is there once if its block is, and otherwise never.
* `blocks_enabled_once`: all of it for the page of a configuration.
-/

namespace SalonBooking.Page

/-! ## Ids of elements -/

/-- The ids of some trees, in document order. -/
def ids (nodes : List Node) : List String :=
  (Node.elementsOf nodes).filterMap fun element => textAttr element.2 "id"

section
variable {tag : String} {attrs : Assoc String AttrValue} {node : Node}
  {children rest nodes others : List Node}

theorem ids_append (nodes others : List Node) :
    ids (nodes ++ others) = ids nodes ++ ids others := by
  rw [ids, Node.elementsOf_append, List.filterMap_append]
  rfl

theorem ids_cons (node : Node) (rest : List Node) : ids (node :: rest) = ids [node] ++ ids rest :=
  ids_append [node] rest

theorem ids_map {α : Type} (f : α → Node) (as : List α) :
    ids (as.map f) = as.flatMap fun a => ids [f a] := by
  induction as with
  | nil => rfl
  | cons a rest ih => rw [List.map_cons, ids_cons, ih, List.flatMap_cons]

theorem ids_itemIf (condition : Bool) (node : Node) :
    ids (itemIf condition node) = if condition then ids [node] else [] := by
  cases condition <;> rfl

theorem ids_el (tag : String) (attrs : Assoc String AttrValue) (children : List Node) :
    ids [el tag attrs children] = (textAttr attrs "id").toList ++ ids children := by
  rw [ids, Node.elementsOf, Node.elementsOf, List.append_nil, el, Node.elements,
    List.filterMap_cons]
  cases textAttr attrs "id" <;> rfl

/-- An element with an id. -/
theorem ids_el_of_some {id : String} (h : textAttr attrs "id" = some id) :
    ids [el tag attrs children] = id :: ids children := by
  rw [ids_el, h]
  rfl

/-- An element without an id. -/
theorem ids_el_of_none (h : textAttr attrs "id" = none) :
    ids [el tag attrs children] = ids children := by
  rw [ids_el, h]
  rfl

theorem ids_map_eq_nil {α : Type} {f : α → Node} (h : ∀ a, ids [f a] = []) (as : List α) :
    ids (as.map f) = [] := by
  rw [ids_map, List.flatMap_eq_nil_iff]
  exact fun a _ => h a

theorem ids_itemIf_eq_nil (h : ids [node] = []) (condition : Bool) :
    ids (itemIf condition node) = [] := by
  rw [ids_itemIf, h, ite_self]

theorem ids_append_eq_nil (hnodes : ids nodes = []) (hothers : ids others = []) :
    ids (nodes ++ others) = [] := by
  rw [ids_append, hnodes, hothers]
  rfl

theorem ids_cons_eq_nil (hnode : ids [node] = []) (hrest : ids rest = []) :
    ids (node :: rest) = [] :=
  ids_append_eq_nil hnode hrest

theorem ids_el_eq_nil (hattrs : textAttr attrs "id" = none) (hchildren : ids children = []) :
    ids [el tag attrs children] = [] :=
  (ids_el_of_none hattrs).trans hchildren

end

/-! ## The blocks beside the menus -/

theorem ids_label (text : String) (required : Bool) (forId : AttrValue) :
    ids [label text required forId] = [] := by
  cases required <;> rfl

theorem ids_choiceField (id title group : String) (block : ChoiceBlock) :
    ids [choiceField id title group block] = [id] := by
  have hbuttons : ids [el "div" [("class", "button-group")]
      (block.options.map (choiceButton group))] = [] :=
    ids_el_eq_nil rfl (ids_map_eq_nil (fun _ => rfl) block.options)
  rw [choiceField, ids_el_of_some rfl, ids_cons_eq_nil (ids_label _ _ _) hbuttons]

/-- The ids in the block of a question.  One that is answered in writing has a control with an id of
its own. -/
def customFieldIds (field : CustomField) : List String :=
  match field.kind with
  | .text | .textarea => [customFieldId field ++ "-block", customFieldId field]
  | .radio | .checkbox => [customFieldId field]

theorem ids_customField (field : CustomField) :
    ids [customField field] = customFieldIds field := by
  have hwritten {control : Node} (h : ids [control] = [customFieldId field]) :
      ids [writtenField field control] =
        [customFieldId field ++ "-block", customFieldId field] := by
    rw [writtenField, ids_el_of_some rfl, ids_cons, ids_label, h]
    rfl
  have hchosen {groupClass : String} {nodes : List Node} (h : ids nodes = []) :
      ids [chosenField field groupClass nodes] = [customFieldId field] := by
    rw [chosenField, ids_el_of_some rfl, ids_cons_eq_nil (ids_label _ _ _) (ids_el_eq_nil rfl h)]
  rw [customField, customFieldIds]
  cases field.kind with
  | text => exact hwritten rfl
  | textarea => exact hwritten rfl
  | radio => exact hchosen (ids_map_eq_nil (fun _ => rfl) field.options)
  | checkbox => exact hchosen (ids_map_eq_nil (fun _ => rfl) field.options)

/-- The ids in a picker: its block, its placeholder and its two lists. -/
def pickerIds (i : Nat) : List String :=
  ["datetime-field-" ++ toString i, "placeholder" ++ toString i,
    "date" ++ toString i ++ "_" ++ "day", "date" ++ toString i ++ "_" ++ "time"]

theorem ids_pickerSelect {i : Nat} {part title : String} {entries : List Node}
    (h : ids entries = []) :
    ids [pickerSelect i part title entries] = ["date" ++ toString i ++ "_" ++ part] := by
  rw [pickerSelect, ids_el_of_some rfl, h]

theorem ids_picker (times : List String) (i : Nat) (title : String) :
    ids [picker times i title] = pickerIds i := by
  have htimes : ids (pickerOption "" "時間を選択" :: times.map fun t => pickerOption t t) = [] :=
    ids_cons_eq_nil rfl (ids_map_eq_nil (fun _ => rfl) times)
  have hlists : ids [pickerSelect i "day" "日付を選択" [pickerOption "" "日付を選択"],
      pickerSelect i "time" "時間を選択"
        (pickerOption "" "時間を選択" :: times.map fun t => pickerOption t t)] =
        ["date" ++ toString i ++ "_" ++ "day", "date" ++ toString i ++ "_" ++ "time"] := by
    rw [ids_cons, ids_pickerSelect rfl, ids_pickerSelect htimes]
    rfl
  rw [picker, ids_el_of_some rfl, ids_cons, ids_label, List.nil_append, ids_el_of_none rfl,
    ids_cons, ids_el_of_some rfl, ids_el_of_none rfl, hlists]
  rfl

/-- The ids in the blocks in which the customer chooses dates, one list for each block. -/
def dateIds (config : FormConfig) : List (List String) :=
  if config.isMultipleDates then [1, 2, 3].map pickerIds
  else [["datetime-field", "current-month", "calendar-table"]]

theorem ids_dateFields (config : FormConfig) :
    (dateFields config).map (fun block => ids [block]) = dateIds config := by
  rw [dateFields, dateIds]
  split
  · simp only [pickerFields, pickerTitles, List.map_cons, List.map_nil, ids_picker]
  · rfl

/-! ## The menus -/

theorem ids_descriptionNode (shown : Bool) (description : String) :
    ids (descriptionNode shown description) = [] :=
  ids_itemIf_eq_nil rfl _

theorem ids_menuButton (display : DisplayOptions) (categoryId : String) (menu : Menu) :
    ids [menuButton display categoryId menu] = [] := by
  have hinfo : ids [menuInfo display menu] = [] := by
    cases menu with
    | leaf menu =>
      exact ids_el_eq_nil rfl
        (ids_append_eq_nil (ids_itemIf_eq_nil rfl _) (ids_itemIf_eq_nil rfl _))
    | submenu menu => rfl
  have hcontent : ids [menuContent display menu] = [] :=
    ids_el_eq_nil rfl (ids_cons_eq_nil rfl (ids_descriptionNode _ _))
  exact ids_el_eq_nil rfl
    (ids_append_eq_nil (ids_itemIf_eq_nil rfl _) (ids_cons_eq_nil hcontent hinfo))

theorem ids_optionButton (display : DisplayOptions) (menuId : String) (o : MenuOption) :
    ids [optionButton display menuId o] = [] := by
  have hname : ids [el "div" [("class", "option-name")] (.text o.name ::
      itemIf o.isDefault (el "span" [("class", "option-badge")] ["おすすめ"]))] = [] :=
    ids_el_eq_nil rfl (ids_cons_eq_nil rfl (ids_itemIf_eq_nil rfl _))
  refine ids_el_eq_nil rfl (ids_cons_eq_nil ?_ ?_)
  · exact ids_el_eq_nil rfl (ids_cons_eq_nil hname (ids_descriptionNode _ _))
  · exact ids_el_eq_nil rfl
      (ids_append_eq_nil (ids_itemIf_eq_nil rfl _) (ids_itemIf_eq_nil rfl _))

theorem ids_itemButton (display : DisplayOptions) (menuId : String) (item : SubmenuItem) :
    ids [itemButton display menuId item] = [] := by
  refine ids_el_eq_nil rfl (ids_cons_eq_nil ?_ ?_)
  · exact ids_el_eq_nil rfl (ids_cons_eq_nil rfl (ids_descriptionNode _ _))
  · exact ids_el_eq_nil rfl
      (ids_append_eq_nil (ids_itemIf_eq_nil rfl _) (ids_itemIf_eq_nil rfl _))

/-- The id of the panel of a menu, if it has one. -/
def panelIds : Menu → List String
  | .leaf m => itemIf (!m.options.isEmpty) ("options-" ++ m.id)
  | .submenu m => ["submenu-" ++ m.id]

theorem ids_menuPanel (display : DisplayOptions) (menu : Menu) :
    ids (menuPanel display menu) = panelIds menu := by
  cases menu with
  | leaf m =>
    have hoptions : ids (el "div" [("class", "options-title")] ["オプション"] ::
        m.options.map (optionButton display m.id)) = [] :=
      ids_cons_eq_nil rfl (ids_map_eq_nil (ids_optionButton display m.id) m.options)
    rw [menuPanel, optionsPanel, ids_itemIf, ids_el_of_some rfl, hoptions]
    rfl
  | submenu m =>
    have hitems : ids (el "div" [("class", "submenu-title")] ["サブメニューを選択してください"] ::
        m.items.map (itemButton display m.id)) = [] :=
      ids_cons_eq_nil rfl (ids_map_eq_nil (ids_itemButton display m.id) m.items)
    rw [menuPanel, submenuPanel, ids_el_of_some rfl, hitems]
    rfl

theorem ids_menuEntry (display : DisplayOptions) (categoryId : String) (menu : Menu) :
    ids [menuEntry display categoryId menu] = panelIds menu := by
  rw [menuEntry, ids_el_of_none rfl, ids_cons, ids_menuButton, ids_menuPanel]
  rfl

theorem ids_categoryBlock (display : DisplayOptions) (category : Category) :
    ids [categoryBlock display category] = category.menus.flatMap panelIds := by
  have hname : ids (itemIf (!category.name.isEmpty)
      (el "div" [("class", "category-name")] [category.name])) = [] :=
    ids_itemIf_eq_nil rfl _
  rw [categoryBlock, ids_el_of_none rfl, ids_append, hname, ids_el_of_none rfl, ids_map,
    List.nil_append]
  exact List.flatMap_congr fun menu _ => ids_menuEntry display category.id menu

/-- The ids in the block of the menus. -/
def menuIds (catalogue : Catalogue) : List String :=
  "menu-field" :: catalogue.categories.flatMap fun category => category.menus.flatMap panelIds

theorem ids_menuField (catalogue : Catalogue) :
    (menuField catalogue).map (fun block => ids [block]) =
      itemIf (!catalogue.categories.isEmpty) (menuIds catalogue) := by
  have hblock : ids [el "div" [("class", "field"), ("id", "menu-field")]
      (label "メニューをお選びください" true .absent ::
        catalogue.categories.map (categoryBlock catalogue.display))] = menuIds catalogue := by
    rw [ids_el_of_some rfl, ids_cons, ids_label, ids_map, List.nil_append]
    exact congrArg _ (List.flatMap_congr fun category _ => ids_categoryBlock _ category)
  rw [menuField, ← hblock]
  cases catalogue.categories.isEmpty <;> rfl

/-! ## The blocks of a page -/

/-- The ids of the blocks that come before the salon's own questions. -/
def openingIds (config : FormConfig) : List (List String) :=
  itemIf config.ui.showRepeatBooking ["repeat-booking-button"] ++
  [["name-field", "customer-name"], ["phone-field", "customer-phone"]] ++
  (itemIf config.gender.enabled ["gender-field"] ++
    itemIf config.visitCount.enabled ["visit-count-field"] ++
    itemIf config.coupon.enabled ["coupon-field"])

/-- The ids of the blocks that come after the menus. -/
def closingIds (config : FormConfig) : List (List String) :=
  dateIds config ++
  [["message-field", "customer-message"], ["summary-content"], ["form-error"], ["submit-button"]]

/-- The ids of the blocks of a page in their order, one list for each block. -/
def blockIds (config : FormConfig) : List (List String) :=
  openingIds config ++ config.customFields.map customFieldIds ++
  itemIf (!config.catalogue.categories.isEmpty) (menuIds config.catalogue) ++ closingIds config

theorem map_itemIf {α β : Type} (f : α → β) (condition : Bool) (a : α) :
    (itemIf condition a).map f = itemIf condition (f a) := by
  cases condition <;> rfl

/-- The blocks stand in their order, each with its ids. -/
theorem ids_fields (config : FormConfig) :
    (fields config).map (fun block => ids [block]) = blockIds config := by
  have hcustom : (config.customFields.map customField).map (fun block => ids [block]) =
      config.customFields.map customFieldIds := by
    rw [List.map_map]
    exact List.map_congr_left fun field _ => ids_customField field
  simp only [fields, choiceFields, blockIds, openingIds, closingIds, List.map_append, map_itemIf,
    ids_choiceField, hcustom, ids_menuField, ids_dateFields, List.append_assoc]
  rfl

theorem ids_flatten (nodes : List Node) :
    ids nodes = (nodes.map fun node => ids [node]).flatten := by
  rw [← List.flatMap_def, ← ids_map, List.map_id']

/-- Outside of the blocks a page has no ids. -/
theorem ids_scriptedTree (config : FormConfig) (formId storeId : String)
    (index : List (String × String)) :
    ids [scriptedTree config formId storeId index] = (blockIds config).flatten := by
  have hheader : ids [header config.basicInfo] = [] :=
    ids_el_eq_nil rfl (ids_append_eq_nil (ids_itemIf_eq_nil rfl _) rfl)
  have htitle : ids [el "h2" [("class", "section-title")] ["ご予約内容"]] = [] := rfl
  have hcontainer : ids [container config] = (blockIds config).flatten := by
    rw [container, ids_el_of_none rfl, ids_cons, hheader, ids_el_of_none rfl, ids_cons, htitle,
      List.nil_append, List.nil_append, ids_flatten, ids_fields]
  have hhead : ids [head config] = [] := rfl
  have hscript : ids [scriptElement config (.str formId) (.str storeId) index] = [] := rfl
  rw [scriptedTree, treeWith, ids_el_of_none rfl, ids_cons, hhead, ids_el_of_none rfl, ids_cons,
    hcontainer, hscript, List.append_nil]
  rfl

/-! ## Fixed ids and made ones -/

/-- What the ids begin with that are made from the ids of questions and menus. -/
def madePrefixes : List String := ["custom-field-", "options-", "submenu-"]

/-- Whether an id may be one that is made. -/
def isMade (id : String) : Bool :=
  madePrefixes.any fun front => front.toList.isPrefixOf id.toList

theorem isMade_append {front : String} (hfront : front ∈ madePrefixes) (s : String) :
    isMade (front ++ s) = true := by
  refine List.any_eq_true.mpr ⟨front, hfront, List.isPrefixOf_iff_prefix.mpr ?_⟩
  rw [String.toList_append]
  exact List.prefix_append _ _

/-- The fixed ids before the salon's own questions, each with the condition under which its block is
there. -/
def openingFixedIds (config : FormConfig) : List (String × Bool) :=
  [("repeat-booking-button", config.ui.showRepeatBooking), ("name-field", true),
    ("customer-name", true), ("phone-field", true), ("customer-phone", true),
    ("gender-field", config.gender.enabled), ("visit-count-field", config.visitCount.enabled),
    ("coupon-field", config.coupon.enabled)]

/-- The fixed ids after the menus, each with the condition under which its block is there. -/
def closingFixedIds (config : FormConfig) : List (String × Bool) :=
  [("datetime-field", !config.isMultipleDates), ("current-month", !config.isMultipleDates),
    ("calendar-table", !config.isMultipleDates),
    ("datetime-field-1", config.isMultipleDates), ("placeholder1", config.isMultipleDates),
    ("date1_day", config.isMultipleDates), ("date1_time", config.isMultipleDates),
    ("datetime-field-2", config.isMultipleDates), ("placeholder2", config.isMultipleDates),
    ("date2_day", config.isMultipleDates), ("date2_time", config.isMultipleDates),
    ("datetime-field-3", config.isMultipleDates), ("placeholder3", config.isMultipleDates),
    ("date3_day", config.isMultipleDates), ("date3_time", config.isMultipleDates),
    ("message-field", true), ("customer-message", true), ("summary-content", true),
    ("form-error", true), ("submit-button", true)]

/-- The fixed ids, each with the condition under which its block is there. -/
def fixedIds (config : FormConfig) : List (String × Bool) :=
  openingFixedIds config ++ ("menu-field", !config.catalogue.categories.isEmpty) ::
    closingFixedIds config

/-- The ids of which the condition holds. -/
def present (table : List (String × Bool)) : List String :=
  table.filterMap fun entry => if entry.2 then some entry.1 else none

theorem present_append (table table' : List (String × Bool)) :
    present (table ++ table') = present table ++ present table' :=
  List.filterMap_append

theorem mem_present_iff {table : List (String × Bool)} {id : String} :
    id ∈ present table ↔ (id, true) ∈ table := by
  simp only [present, List.mem_filterMap, Prod.exists]
  constructor
  · rintro ⟨name, condition, hmem, hsome⟩
    cases condition with
    | false => cases hsome
    | true =>
      obtain rfl := Option.some.inj hsome
      exact hmem
  · intro hmem
    exact ⟨id, true, hmem, rfl⟩

theorem present_sublist (table : List (String × Bool)) :
    (present table).Sublist (table.map Prod.fst) := by
  induction table with
  | nil => exact List.Sublist.refl []
  | cons entry rest ih =>
    obtain ⟨name, condition⟩ := entry
    cases condition with
    | false => exact ih.cons name
    | true => exact ih.cons_cons name

/-- In a table without repeated ids, an id is present once if its condition holds. -/
theorem count_present {table : List (String × Bool)} (hnodup : (table.map Prod.fst).Nodup)
    {entry : String × Bool} (hentry : entry ∈ table) :
    (present table).count entry.1 = if entry.2 then 1 else 0 := by
  obtain ⟨id, condition⟩ := entry
  cases condition with
  | true =>
    exact List.count_eq_one_of_mem (hnodup.sublist (present_sublist table))
      (mem_present_iff.mpr hentry)
  | false =>
    refine List.count_eq_zero_of_not_mem fun hmem => ?_
    have hsame := List.inj_on_of_nodup_map hnodup (mem_present_iff.mp hmem) hentry rfl
    cases hsame

theorem nodup_fixedIds (config : FormConfig) : ((fixedIds config).map Prod.fst).Nodup := by
  simp only [fixedIds, openingFixedIds, closingFixedIds, List.map_cons, List.map_nil,
    List.cons_append, List.nil_append]
  decide +kernel

/-- No fixed id is one that is made. -/
theorem isMade_of_mem_fixedIds {config : FormConfig} {fixed : String × Bool}
    (hfixed : fixed ∈ fixedIds config) : isMade fixed.1 = false := by
  have hnames : ∀ id ∈ (fixedIds config).map Prod.fst, isMade id = false := by
    simp only [fixedIds, openingFixedIds, closingFixedIds, List.map_cons, List.map_nil,
      List.cons_append, List.nil_append]
    decide +kernel
  exact hnames fixed.1 (List.mem_map_of_mem hfixed)

theorem flatten_openingIds (config : FormConfig) :
    (openingIds config).flatten = present (openingFixedIds config) := by
  rw [openingIds, openingFixedIds]
  cases config.ui.showRepeatBooking <;> cases config.gender.enabled <;>
    cases config.visitCount.enabled <;> cases config.coupon.enabled <;> rfl

theorem flatten_closingIds (config : FormConfig) :
    (closingIds config).flatten = present (closingFixedIds config) := by
  rw [closingIds, closingFixedIds, dateIds]
  cases config.isMultipleDates <;> decide +kernel

/-- The ids that are made from those of the questions and the menus. -/
def madeIds (config : FormConfig) : List String :=
  config.customFields.flatMap customFieldIds ++
  config.catalogue.categories.flatMap fun category => category.menus.flatMap panelIds

theorem flatten_menuIds (catalogue : Catalogue) :
    (itemIf (!catalogue.categories.isEmpty) (menuIds catalogue)).flatten =
      present [("menu-field", !catalogue.categories.isEmpty)] ++
        catalogue.categories.flatMap fun category => category.menus.flatMap panelIds := by
  cases hcategories : catalogue.categories with
  | nil => rfl
  | cons first rest =>
    rw [← hcategories, menuIds]
    simp [hcategories, itemIf, present]

/-- The ids of a page are the fixed ones that are there and the made ones. -/
theorem flatten_blockIds_perm (config : FormConfig) :
    (blockIds config).flatten.Perm (present (fixedIds config) ++ madeIds config) := by
  have hfixed : present (fixedIds config) = present (openingFixedIds config) ++
      (present [("menu-field", !config.catalogue.categories.isEmpty)] ++
        present (closingFixedIds config)) := by
    rw [← present_append, ← present_append]
    rfl
  rw [List.perm_iff_count]
  intro id
  rw [blockIds, hfixed, madeIds, List.flatten_append, List.flatten_append, List.flatten_append,
    flatten_openingIds, flatten_menuIds, flatten_closingIds, ← List.flatMap_def]
  simp only [List.count_append]
  omega

theorem mem_customFieldIds {field : CustomField} {id : String} (h : id ∈ customFieldIds field) :
    id = "custom-field-" ++ field.id ∨ id = "custom-field-" ++ field.id ++ "-block" := by
  rw [customFieldIds, customFieldId] at h
  split at h
  all_goals
    simp only [List.mem_cons, List.not_mem_nil, or_false] at h
    tauto

theorem mem_panelIds {menu : Menu} {id : String} (h : id ∈ panelIds menu) :
    id = "options-" ++ menu.id ∨ id = "submenu-" ++ menu.id := by
  cases menu with
  | leaf m =>
    rw [panelIds, itemIf] at h
    split at h
    · exact Or.inl (List.mem_singleton.mp h)
    · exact absurd h List.not_mem_nil
  | submenu m => exact Or.inr (List.mem_singleton.mp h)

/-- A made id is made from the id of a question or of a menu. -/
theorem mem_madeIds {config : FormConfig} {id : String} (h : id ∈ madeIds config) :
    (∃ field ∈ config.customFields, id = "custom-field-" ++ field.id ∨
      id = "custom-field-" ++ field.id ++ "-block") ∨
    ∃ category ∈ config.catalogue.categories, ∃ menu ∈ category.menus,
      id = "options-" ++ menu.id ∨ id = "submenu-" ++ menu.id := by
  rcases List.mem_append.mp h with h | h
  · obtain ⟨field, hfield, hid⟩ := List.mem_flatMap.mp h
    exact Or.inl ⟨field, hfield, mem_customFieldIds hid⟩
  · obtain ⟨category, hcategory, hid⟩ := List.mem_flatMap.mp h
    obtain ⟨menu, hmenu, hid⟩ := List.mem_flatMap.mp hid
    exact Or.inr ⟨category, hcategory, menu, hmenu, mem_panelIds hid⟩

/-- What a made id begins with shows that it is one. -/
theorem isMade_of_mem_madeIds {config : FormConfig} {id : String} (h : id ∈ madeIds config) :
    isMade id = true := by
  rcases mem_madeIds h with ⟨field, -, rfl | rfl⟩ | ⟨category, -, menu, -, rfl | rfl⟩
  · exact isMade_append (by decide) _
  · rw [String.append_assoc]
    exact isMade_append (by decide) _
  · exact isMade_append (by decide) _
  · exact isMade_append (by decide) _

/-- A fixed id is there once if its block is, and otherwise never. -/
theorem count_blockIds {config : FormConfig} {fixed : String × Bool}
    (hfixed : fixed ∈ fixedIds config) :
    (blockIds config).flatten.count fixed.1 = if fixed.2 then 1 else 0 := by
  have hmade : (madeIds config).count fixed.1 = 0 := by
    refine List.count_eq_zero_of_not_mem fun hmem => ?_
    have hplain := isMade_of_mem_fixedIds hfixed
    rw [isMade_of_mem_madeIds hmem] at hplain
    exact Bool.noConfusion hplain
  rw [(flatten_blockIds_perm config).count_eq, List.count_append,
    count_present (nodup_fixedIds config) hfixed, hmade, Nat.add_zero]

/-- The ids of a page are the fixed ones whose block is there, and the made ones. -/
theorem mem_blockIds_iff {config : FormConfig} {id : String} :
    id ∈ (blockIds config).flatten ↔ (id, true) ∈ fixedIds config ∨ id ∈ madeIds config := by
  rw [(flatten_blockIds_perm config).mem_iff, List.mem_append, mem_present_iff]

/-- Nothing that begins like a made id is a fixed one. -/
theorem ne_of_mem_fixedIds {config : FormConfig} {fixed : String × Bool}
    (hfixed : fixed ∈ fixedIds config) {front : String} (hfront : front ∈ madePrefixes)
    (s : String) : fixed.1 ≠ front ++ s := by
  intro heq
  have hplain := isMade_of_mem_fixedIds hfixed
  rw [heq, isMade_append hfront] at hplain
  exact Bool.noConfusion hplain

end Page

/-! ## The page of a configuration -/

/-- Every configuration has a page, whose blocks stand in their order, each with its ids, and which
has no others.  A fixed id is there once if its block is enabled and otherwise never, and no text
makes an id of a question or a menu that is a fixed one. -/
theorem blocks_enabled_once {limits : Limits} {source : Source} {config : FormConfig}
    (hconfig : normalize limits source = .ok config) (formId storeId : String) :
    ∃ index html, Page.actionIndex (Page.tree config) = .ok index ∧
      (Page.scriptedTree config formId storeId index).render limits = .ok html ∧
      config.page limits formId storeId = .ok ("<!DOCTYPE html>\n" ++ html ++ "\n") ∧
      (Page.fields config).map (fun block => Page.ids [block]) = Page.blockIds config ∧
      Page.ids [Page.scriptedTree config formId storeId index] = (Page.blockIds config).flatten ∧
      (∀ fixed ∈ Page.fixedIds config,
        (Page.ids [Page.scriptedTree config formId storeId index]).count fixed.1 =
            (if fixed.2 then 1 else 0) ∧
          ∀ s : String, fixed.1 ≠ "custom-field-" ++ s ∧ fixed.1 ≠ "options-" ++ s ∧
            fixed.1 ≠ "submenu-" ++ s) ∧
      ∀ id ∈ Page.ids [Page.scriptedTree config formId storeId index],
        (id, true) ∈ Page.fixedIds config ∨
        (∃ field ∈ config.customFields, id = "custom-field-" ++ field.id ∨
          id = "custom-field-" ++ field.id ++ "-block") ∨
        ∃ category ∈ config.catalogue.categories, ∃ menu ∈ category.menus,
          id = "options-" ++ menu.id ∨ id = "submenu-" ++ menu.id := by
  obtain ⟨index, html, hindex, hhtml, hpage⟩ :=
    Page.exists_page (wellFormed_of_normalize hconfig) limits formId storeId
  have hids := Page.ids_scriptedTree config formId storeId index
  refine ⟨index, html, hindex, hhtml, hpage, Page.ids_fields config, hids, ?_, ?_⟩
  · intro fixed hfixed
    rw [hids]
    refine ⟨Page.count_blockIds hfixed, fun s => ⟨?_, ?_, ?_⟩⟩
    · exact Page.ne_of_mem_fixedIds hfixed (by decide) s
    · exact Page.ne_of_mem_fixedIds hfixed (by decide) s
    · exact Page.ne_of_mem_fixedIds hfixed (by decide) s
  · intro id hid
    rw [hids, Page.mem_blockIds_iff] at hid
    rcases hid with hfixed | hmade
    · exact Or.inl hfixed
    · exact Or.inr (Page.mem_madeIds hmade)

/-- A salon whose questions and menus are called like blocks, and which does not ask for the
gender. -/
def salonOfShadows : Json :=
  .obj [("basic_info", .obj []), ("coupon_selection", .obj [("enabled", .bool true)]),
    ("custom_fields", .arr [
      .obj [("id", .str "name"), ("type", .str "text")],
      .obj [("id", .str "name-block"), ("type", .str "radio"),
        ("options", .arr [.obj [("value", .str "a"), ("label", .str "A")]])]]),
    ("menu_structure", .obj [("categories", .arr [
      .obj [("id", .str "hair"), ("menus", .arr [
        .obj [("id", .str "gender-field"), ("options", .arr [.obj [("id", .str "wash")]])],
        .obj [("id", .str "menu-field"), ("has_submenu", .bool true),
          ("sub_menu_items", .arr [.obj [("id", .str "full")]])]])]])])]

/-- Its configuration. -/
def shadowsConfig : FormConfig :=
  .ofStored ⟨salonOfShadows, salonOfShadows, .null⟩

/-- No question or menu takes the id of a block, though two questions share one. -/
theorem blocks_enabled_once_shadows :
    normalize .standard (.value salonOfShadows) = .ok shadowsConfig ∧
      ∃ index html, (Page.scriptedTree shadowsConfig "f" "s" index).render .standard = .ok html ∧
        shadowsConfig.page .standard "f" "s" = .ok ("<!DOCTYPE html>\n" ++ html ++ "\n") ∧
        (Page.fields shadowsConfig).map (fun block => Page.ids [block]) =
          [["name-field", "customer-name"], ["phone-field", "customer-phone"], ["coupon-field"],
            ["custom-field-name-block", "custom-field-name"], ["custom-field-name-block"],
            ["menu-field", "options-gender-field", "submenu-menu-field"],
            ["datetime-field", "current-month", "calendar-table"],
            ["message-field", "customer-message"], ["summary-content"], ["form-error"],
            ["submit-button"]] ∧
        (Page.ids [Page.scriptedTree shadowsConfig "f" "s" index]).count "gender-field" = 0 ∧
        (Page.ids [Page.scriptedTree shadowsConfig "f" "s" index]).count "menu-field" = 1 ∧
        (Page.ids [Page.scriptedTree shadowsConfig "f" "s" index]).count "date1_day" = 0 := by
  have hconfig : normalize .standard (.value salonOfShadows) = .ok shadowsConfig := rfl
  obtain ⟨index, html, -, hhtml, hpage, hfields, -, hfixed, -⟩ :=
    blocks_enabled_once hconfig "f" "s"
  exact ⟨hconfig, index, html, hhtml, hpage, hfields.trans (by decide +kernel),
    (hfixed ("gender-field", false) (by decide +kernel)).1,
    (hfixed ("menu-field", true) (by decide +kernel)).1,
    (hfixed ("date1_day", false) (by decide +kernel)).1⟩

end SalonBooking
