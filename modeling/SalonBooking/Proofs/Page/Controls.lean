import SalonBooking.Page.Document
import SalonBooking.Proofs.Booking.Posted
import SalonBooking.Proofs.Markup.Places

/-!
# The controls of the menus

A control is an element that starts an action; which menu, option or item it
stands for is said by its attributes.  The page walks the catalogue to make the
controls, and a click walks it to find what a control stands for.

* `lacksControls`: a test that no menu is controlled by some nodes.  For elements
  without lists inside it computes, whatever the texts are.
* `controls_tree`, `controls_menu`: the controls of a page are those of its menus and
  their panels.
* `Catalogue.selectMenu_empty`, `Catalogue.click_option_of_mem`,
  `Catalogue.click_item_of_mem`: what a control does.
* `controls_are_catalogue`: each part of the catalogue has its control, and each
  control works.
-/

namespace SalonBooking

namespace Menu

/-- The ids of the options of a menu; a submenu has none. -/
def optionIds : Menu → List String
  | .leaf menu => menu.options.map MenuOption.id
  | .submenu _ => []

/-- The ids of the items of a menu; a leaf has none. -/
def itemIds : Menu → List String
  | .leaf _ => []
  | .submenu menu => menu.items.map SubmenuItem.id

end Menu

namespace Page

/-! ## Controls -/

/-- The text of an attribute. -/
def textAttr (attrs : Assoc String AttrValue) (name : String) : Option String :=
  match attrs.get? name with
  | some (.text s) => some s
  | _ => none

/-- The elements that start an action, each as its tag and the texts of some of its attributes. -/
def controls (action : String) (names : List String)
    (elements : List (String × Assoc String AttrValue)) : List (String × List (Option String)) :=
  (elements.filter fun element => actionOf? element.2 == some action).map fun element =>
    (element.1, names.map (textAttr element.2))

section
variable {action : String} {names : List String} {tag : String}
  {attrs : Assoc String AttrValue} {children rest nodes others : List Node}

theorem controls_append (nodes others : List Node) :
    controls action names (Node.elementsOf (nodes ++ others)) =
      controls action names (Node.elementsOf nodes) ++
        controls action names (Node.elementsOf others) := by
  simp only [controls, Node.elementsOf_append, List.filter_append, List.map_append]

theorem controls_cons (node : Node) (rest : List Node) :
    controls action names (Node.elementsOf (node :: rest)) =
      controls action names node.elements ++ controls action names (Node.elementsOf rest) := by
  simp only [controls, Node.elementsOf, List.filter_append, List.map_append]

theorem controls_map {α : Type} (f : α → Node) (as : List α) :
    controls action names (Node.elementsOf (as.map f)) =
      as.flatMap fun a => controls action names (f a).elements := by
  induction as with
  | nil => rfl
  | cons a rest ih => rw [List.map_cons, controls_cons, ih, List.flatMap_cons]

/-- An element that starts the action. -/
theorem controls_el_of_eq (h : actionOf? attrs = some action) :
    controls action names (el tag attrs children).elements =
      (tag, names.map (textAttr attrs)) :: controls action names (Node.elementsOf children) := by
  have hstarts : (actionOf? attrs == some action) = true := by rw [h, beq_self_eq_true]
  rw [el, Node.elements, controls, List.filter_cons, if_pos hstarts, List.map_cons]
  rfl

/-- An element that does not start the action. -/
theorem controls_el_of_ne (h : actionOf? attrs ≠ some action) :
    controls action names (el tag attrs children).elements =
      controls action names (Node.elementsOf children) := by
  have hother : ¬ (actionOf? attrs == some action) = true := by simpa using h
  rw [el, Node.elements, controls, List.filter_cons, if_neg hother]
  rfl

end

/-! ## What controls no menu -/

/-- The actions of the controls of menus. -/
def menuActions : List String := ["select-menu", "toggle-option", "select-submenu"]

/-- Whether the attributes of an element start none of these actions. -/
def lacksAction (attrs : Assoc String AttrValue) : Bool :=
  menuActions.all fun action => actionOf? attrs != some action

/-- Whether no element among some nodes and in them starts any of these actions. -/
def lacksControls (nodes : List Node) : Bool :=
  (Node.elementsOf nodes).all fun element => lacksAction element.2

section
variable {action : String} {names : List String} {tag : String}
  {attrs : Assoc String AttrValue} {node : Node} {children rest nodes others : List Node}

theorem ne_of_lacksAction (h : lacksAction attrs = true) (haction : action ∈ menuActions) :
    actionOf? attrs ≠ some action := by
  rw [lacksAction, List.all_eq_true] at h
  simpa using h action haction

theorem controls_of_lacksControls (h : lacksControls nodes = true)
    (haction : action ∈ menuActions) : controls action names (Node.elementsOf nodes) = [] := by
  rw [lacksControls, List.all_eq_true] at h
  rw [controls, List.map_eq_nil_iff, List.filter_eq_nil_iff]
  intro element helement
  simpa using ne_of_lacksAction (h element helement) haction

theorem lacksControls_append (hnodes : lacksControls nodes = true)
    (hothers : lacksControls others = true) : lacksControls (nodes ++ others) = true := by
  rw [lacksControls] at hnodes hothers ⊢
  rw [Node.elementsOf_append, List.all_append, hnodes, hothers]
  rfl

theorem lacksControls_cons (hnode : lacksControls [node] = true)
    (hrest : lacksControls rest = true) : lacksControls (node :: rest) = true :=
  @lacksControls_append [node] rest hnode hrest

theorem lacksControls_el (hattrs : lacksAction attrs = true)
    (hchildren : lacksControls children = true) : lacksControls [el tag attrs children] = true := by
  rw [lacksControls] at hchildren ⊢
  rw [Node.elementsOf, el, Node.elements, List.cons_append, List.all_cons, List.all_append,
    hattrs, hchildren]
  rfl

theorem lacksControls_map {α : Type} {f : α → Node} (h : ∀ a, lacksControls [f a] = true)
    (as : List α) : lacksControls (as.map f) = true := by
  induction as with
  | nil => rfl
  | cons a rest ih => exact lacksControls_cons (h a) ih

theorem lacksControls_itemIf (h : lacksControls [node] = true) (condition : Bool) :
    lacksControls (itemIf condition node) = true := by
  cases condition with
  | true => exact h
  | false => rfl

end

/-! ## The blocks beside the menus -/

theorem lacksControls_label (text : String) (required : Bool) (forId : AttrValue) :
    lacksControls [label text required forId] = true := by
  cases required <;> rfl

theorem lacksControls_choiceField {id title group : String} (block : ChoiceBlock) :
    lacksControls [choiceField id title group block] = true :=
  lacksControls_el rfl (lacksControls_cons (lacksControls_label _ _ _)
    (lacksControls_el rfl (lacksControls_map (fun _ => rfl) block.options)))

theorem lacksControls_choiceFields (config : FormConfig) :
    lacksControls (choiceFields config) = true :=
  lacksControls_append
    (lacksControls_append (lacksControls_itemIf (lacksControls_choiceField _) _)
      (lacksControls_itemIf (lacksControls_choiceField _) _))
    (lacksControls_itemIf (lacksControls_choiceField _) _)

theorem lacksControls_customField (field : CustomField) :
    lacksControls [customField field] = true := by
  have hwritten {control : Node} (h : lacksControls [control] = true) :
      lacksControls [writtenField field control] = true :=
    lacksControls_el rfl (lacksControls_cons (lacksControls_label _ _ _) h)
  have hchosen {groupClass : String} {nodes : List Node} (h : lacksControls nodes = true) :
      lacksControls [chosenField field groupClass nodes] = true :=
    lacksControls_el rfl (lacksControls_cons (lacksControls_label _ _ _) (lacksControls_el rfl h))
  rw [customField]
  split
  · exact hwritten rfl
  · exact hwritten rfl
  · exact hchosen (lacksControls_map (fun _ => rfl) field.options)
  · exact hchosen (lacksControls_map (fun _ => rfl) field.options)

theorem lacksControls_picker (times : List String) (i : Nat) (title : String) :
    lacksControls [picker times i title] = true := by
  have htimes : lacksControls (pickerOption "" "時間を選択" :: times.map fun t => pickerOption t t) =
      true :=
    lacksControls_cons rfl (lacksControls_map (fun _ => rfl) times)
  refine lacksControls_el rfl (lacksControls_cons (lacksControls_label _ _ _)
    (lacksControls_el rfl (lacksControls_cons rfl (lacksControls_el rfl
      (lacksControls_cons rfl ?_)))))
  exact lacksControls_el rfl htimes

theorem lacksControls_dateFields (config : FormConfig) :
    lacksControls (dateFields config) = true := by
  rw [dateFields]
  split
  · exact lacksControls_map (fun _ => lacksControls_picker _ _ _) pickerTitles
  · rfl

theorem lacksControls_header (info : BasicInfo) : lacksControls [header info] = true :=
  lacksControls_el rfl (lacksControls_append (lacksControls_itemIf rfl _) rfl)

theorem lacksControls_beforeMenus (config : FormConfig) :
    lacksControls (itemIf config.ui.showRepeatBooking repeatBookingField ++
      [nameField, phoneField] ++ choiceFields config ++ config.customFields.map customField) =
      true :=
  lacksControls_append (lacksControls_append
    (lacksControls_append (lacksControls_itemIf rfl _) rfl) (lacksControls_choiceFields config))
    (lacksControls_map lacksControls_customField config.customFields)

theorem lacksControls_afterMenus (config : FormConfig) :
    lacksControls (dateFields config ++ [messageField, summaryBox, errorBox, submitButton]) =
      true :=
  lacksControls_append (lacksControls_dateFields config) rfl

/-! ## The menus -/

theorem lacksControls_descriptionNode (shown : Bool) (description : String) :
    lacksControls (descriptionNode shown description) = true :=
  lacksControls_itemIf rfl _

/-- What a menu's button shows. -/
theorem lacksControls_menuButton (display : DisplayOptions) (menu : Menu) :
    lacksControls (menuImage menu ++ [menuContent display menu, menuInfo display menu]) = true := by
  have hinfo : lacksControls [menuInfo display menu] = true := by
    cases menu with
    | leaf menu =>
      exact lacksControls_el rfl
        (lacksControls_append (lacksControls_itemIf rfl _) (lacksControls_itemIf rfl _))
    | submenu menu => rfl
  exact lacksControls_append (lacksControls_itemIf rfl _) (lacksControls_cons
    (lacksControls_el rfl (lacksControls_cons rfl (lacksControls_descriptionNode _ _))) hinfo)

section
variable {action own : String} {names : List String} {tag : String}
  {attrs : Assoc String AttrValue} {children : List Node}

/-- A button of the menus is the one control in it. -/
theorem controls_button (hown : actionOf? attrs = some own)
    (hchildren : lacksControls children = true)
    (haction : action ∈ menuActions) :
    controls action names (el tag attrs children).elements =
      itemIf (own == action) (tag, names.map (textAttr attrs)) := by
  have hinside : controls action names (Node.elementsOf children) = [] :=
    controls_of_lacksControls hchildren haction
  by_cases heq : own = action
  · subst heq
    rw [controls_el_of_eq hown, hinside, beq_self_eq_true]
    rfl
  · have hne : actionOf? attrs ≠ some action := by
      rw [hown]
      exact fun h => heq (Option.some.inj h)
    rw [controls_el_of_ne hne, hinside, beq_false_of_ne heq]
    rfl

variable (display : DisplayOptions)

theorem controls_optionButton (haction : action ∈ menuActions) (menuId : String)
    (o : MenuOption) :
    controls action names (optionButton display menuId o).elements =
      itemIf ("toggle-option" == action) ("button", names.map (textAttr
        [("type", "button"), ("class", "option-item"), ("data-action", "toggle-option"),
          ("data-menu-id", menuId), ("data-option-id", o.id)])) := by
  have hname : lacksControls [el "div" [("class", "option-name")]
      (.text o.name ::
        itemIf o.isDefault (el "span" [("class", "option-badge")] ["おすすめ"]))] = true :=
    lacksControls_el rfl (lacksControls_cons rfl (lacksControls_itemIf rfl _))
  refine controls_button rfl (lacksControls_cons ?_ ?_) haction
  · exact lacksControls_el rfl (lacksControls_cons hname (lacksControls_descriptionNode _ _))
  · exact lacksControls_el rfl
      (lacksControls_append (lacksControls_itemIf rfl _) (lacksControls_itemIf rfl _))

theorem controls_itemButton (haction : action ∈ menuActions) (menuId : String)
    (item : SubmenuItem) :
    controls action names (itemButton display menuId item).elements =
      itemIf ("select-submenu" == action) ("button", names.map (textAttr
        [("type", "button"), ("class", "submenu-item"), ("data-action", "select-submenu"),
          ("data-menu-id", menuId), ("data-submenu-id", item.id)])) := by
  refine controls_button rfl (lacksControls_cons ?_ ?_) haction
  · exact lacksControls_el rfl (lacksControls_cons rfl (lacksControls_descriptionNode _ _))
  · exact lacksControls_el rfl
      (lacksControls_append (lacksControls_itemIf rfl _) (lacksControls_itemIf rfl _))

theorem controls_menuButton (haction : action ∈ menuActions) (categoryId : String) (menu : Menu) :
    controls action names (menuButton display categoryId menu).elements =
      itemIf ("select-menu" == action) ("button", names.map (textAttr
        [("type", "button"), ("class", "menu-item"), ("data-action", "select-menu"),
          ("data-menu-id", menu.id), ("data-category-id", categoryId),
          ("data-kind", menu.kind)])) :=
  controls_button rfl (lacksControls_menuButton display menu) haction

/-- The controls of a panel are its buttons. -/
theorem controls_menuPanel (haction : action ∈ menuActions) (menu : Menu) :
    controls action names (Node.elementsOf (menuPanel display menu)) =
      match menu with
      | .leaf menu => menu.options.flatMap fun o =>
          controls action names (optionButton display menu.id o).elements
      | .submenu menu => menu.items.flatMap fun item =>
          controls action names (itemButton display menu.id item).elements := by
  have hplain {text : String} {attrs : Assoc String AttrValue} (h : lacksAction attrs = true) :
      controls action names (el "div" attrs [.text text]).elements = [] := by
    rw [controls_el_of_ne (ne_of_lacksAction h haction)]
    rfl
  cases menu with
  | leaf menu =>
    rw [menuPanel, optionsPanel]
    show _ = menu.options.flatMap _
    cases hoptions : menu.options with
    | nil => rfl
    | cons o rest =>
      rw [← hoptions]
      have hsome : (!menu.options.isEmpty) = true := by rw [hoptions]; rfl
      rw [hsome, itemIf_true, controls_cons, controls_el_of_ne (ne_of_lacksAction rfl haction),
        controls_cons, hplain rfl, controls_map]
      exact List.append_nil _
  | submenu menu =>
    rw [menuPanel, submenuPanel, controls_cons, controls_el_of_ne (ne_of_lacksAction rfl haction),
      controls_cons, hplain rfl, controls_map]
    exact List.append_nil _

theorem controls_menuEntry (haction : action ∈ menuActions) (categoryId : String) (menu : Menu) :
    controls action names (menuEntry display categoryId menu).elements =
      controls action names (menuButton display categoryId menu).elements ++
        controls action names (Node.elementsOf (menuPanel display menu)) := by
  rw [menuEntry, controls_el_of_ne (ne_of_lacksAction rfl haction), controls_cons]

theorem controls_categoryBlock (haction : action ∈ menuActions) (category : Category) :
    controls action names (categoryBlock display category).elements =
      category.menus.flatMap fun menu =>
        controls action names (menuEntry display category.id menu).elements := by
  have hname : lacksControls (itemIf (!category.name.isEmpty)
      (el "div" [("class", "category-name")] [category.name])) = true :=
    lacksControls_itemIf rfl _
  rw [categoryBlock, controls_el_of_ne (ne_of_lacksAction rfl haction), controls_append,
    controls_of_lacksControls hname haction, controls_cons,
    controls_el_of_ne (ne_of_lacksAction rfl haction), controls_map]
  exact List.append_nil _

end

theorem controls_menuField {action : String} {names : List String} (haction : action ∈ menuActions)
    (catalogue : Catalogue) :
    controls action names (Node.elementsOf (menuField catalogue)) =
      catalogue.categories.flatMap fun category =>
        controls action names (categoryBlock catalogue.display category).elements := by
  rw [menuField]
  cases hcategories : catalogue.categories with
  | nil => rfl
  | cons category rest =>
    rw [← hcategories]
    have hsome : (!catalogue.categories.isEmpty) = true := by rw [hcategories]; rfl
    rw [hsome, itemIf_true, controls_cons, controls_el_of_ne (ne_of_lacksAction rfl haction),
      ← List.singleton_append, controls_append,
      controls_of_lacksControls (lacksControls_label _ _ _) haction, controls_map]
    exact List.append_nil _

/-- The controls of a page are those of its menus and their panels. -/
theorem controls_tree {action : String} {names : List String} (haction : action ∈ menuActions)
    (config : FormConfig) :
    controls action names (tree config).elements =
      config.catalogue.categories.flatMap fun category => category.menus.flatMap fun menu =>
        controls action names (menuButton config.catalogue.display category.id menu).elements ++
          controls action names
            (Node.elementsOf (menuPanel config.catalogue.display menu)) := by
  have hbefore := lacksControls_beforeMenus config
  have hafter := lacksControls_afterMenus config
  have hfields : controls action names (Node.elementsOf (fields config)) =
      controls action names (Node.elementsOf (menuField config.catalogue)) := by
    rw [fields, List.append_assoc _ (dateFields config), controls_append, controls_append,
      controls_of_lacksControls hbefore haction, controls_of_lacksControls hafter haction,
      List.append_nil, List.nil_append]
  have hheader := lacksControls_header config.basicInfo
  have htitle : lacksControls [el "h2" [("class", "section-title")] ["ご予約内容"]] = true := rfl
  have hcontainer : controls action names (container config).elements =
      controls action names (Node.elementsOf (fields config)) := by
    rw [container, controls_el_of_ne (ne_of_lacksAction rfl haction), ← List.singleton_append,
      controls_append, controls_of_lacksControls hheader haction, controls_cons,
      controls_el_of_ne (ne_of_lacksAction rfl haction), ← List.singleton_append, controls_append,
      controls_of_lacksControls htitle haction]
    exact List.append_nil _
  have hhead : lacksControls [head config] = true := rfl
  have htree : controls action names (tree config).elements =
      controls action names (container config).elements := by
    rw [tree, treeWith, controls_el_of_ne (ne_of_lacksAction rfl haction),
      ← List.singleton_append, controls_append, controls_of_lacksControls hhead haction,
      controls_cons, controls_el_of_ne (ne_of_lacksAction rfl haction), controls_cons]
    exact (List.append_nil _).trans (List.append_nil _)
  rw [htree, hcontainer, hfields, controls_menuField haction]
  refine List.flatMap_congr fun category _ => ?_
  rw [controls_categoryBlock _ haction]
  exact List.flatMap_congr fun menu _ => controls_menuEntry _ haction category.id menu

/-- Buttons that all start one action are all of its controls, and none of another's. -/
theorem flatMap_itemIf {α β : Type} (own action : String) (f : α → β) (as : List α) :
    (as.flatMap fun a => itemIf (own == action) (f a)) =
      if own = action then as.map f else [] := by
  by_cases h : own = action
  · simp [h, itemIf, List.map_eq_flatMap]
  · simp [h, itemIf]

/-- The button of a menu selects it, and its panel has a button for each of its parts. -/
theorem controls_menu {action : String} {names : List String} (haction : action ∈ menuActions)
    (display : DisplayOptions) (categoryId : String) (menu : Menu) :
    controls action names (menuButton display categoryId menu).elements ++
        controls action names (Node.elementsOf (menuPanel display menu)) =
      itemIf ("select-menu" == action) ("button", names.map (textAttr
          [("type", "button"), ("class", "menu-item"), ("data-action", "select-menu"),
            ("data-menu-id", menu.id), ("data-category-id", categoryId),
            ("data-kind", menu.kind)])) ++
        ((if "toggle-option" = action then menu.optionIds.map fun (id : String) =>
            ("button", names.map (textAttr
              [("type", "button"), ("class", "option-item"), ("data-action", "toggle-option"),
                ("data-menu-id", menu.id), ("data-option-id", id)]))
          else []) ++
        if "select-submenu" = action then menu.itemIds.map fun (id : String) =>
            ("button", names.map (textAttr
              [("type", "button"), ("class", "submenu-item"), ("data-action", "select-submenu"),
                ("data-menu-id", menu.id), ("data-submenu-id", id)]))
          else []) := by
  rw [controls_menuButton _ haction, controls_menuPanel _ haction]
  cases menu with
  | leaf menu =>
    simp only [controls_optionButton _ haction, flatMap_itemIf, Menu.optionIds, Menu.itemIds,
      List.map_map, List.map_nil, ite_self, List.append_nil]
    rfl
  | submenu menu =>
    simp only [controls_itemButton _ haction, flatMap_itemIf, Menu.optionIds, Menu.itemIds,
      List.map_map, List.map_nil, ite_self, List.nil_append]
    rfl

variable (config : FormConfig)

/-- The controls of all menus. -/
theorem controls_selectMenu :
    controls "select-menu" ["data-menu-id", "data-category-id", "data-kind"]
        (tree config).elements =
      config.catalogue.categories.flatMap fun category => category.menus.map fun menu =>
        ("button", [some menu.id, some category.id, some menu.kind]) := by
  rw [controls_tree (by decide)]
  refine List.flatMap_congr fun category _ => ?_
  rw [List.map_eq_flatMap]
  refine List.flatMap_congr fun menu _ => ?_
  rw [controls_menu (by decide), if_neg (by decide), if_neg (by decide)]
  rfl

/-- The controls of all options. -/
theorem controls_toggleOption :
    controls "toggle-option" ["data-menu-id", "data-option-id"] (tree config).elements =
      config.catalogue.categories.flatMap fun category => category.menus.flatMap fun menu =>
        menu.optionIds.map fun id => ("button", [some menu.id, some id]) := by
  rw [controls_tree (by decide)]
  refine List.flatMap_congr fun category _ => List.flatMap_congr fun menu _ => ?_
  rw [controls_menu (by decide), if_pos rfl, if_neg (by decide), List.append_nil]
  rfl

/-- The controls of all items. -/
theorem controls_selectSubmenu :
    controls "select-submenu" ["data-menu-id", "data-submenu-id"] (tree config).elements =
      config.catalogue.categories.flatMap fun category => category.menus.flatMap fun menu =>
        menu.itemIds.map fun id => ("button", [some menu.id, some id]) := by
  rw [controls_tree (by decide)]
  refine List.flatMap_congr fun category _ => List.flatMap_congr fun menu _ => ?_
  rw [controls_menu (by decide), if_neg (by decide), if_pos rfl]
  rfl

end Page

/-! ## What the controls do -/

namespace Catalogue

variable {catalogue : Catalogue} {category : Category} {menu : Menu} {sel : Selection} {id : String}

/-- The control of a menu selects it. -/
theorem selectMenu_empty (hfound : catalogue.findMenu? menu.id = some (category, menu)) :
    catalogue.selectMenu menu.id .empty = Selection.empty.addMenu menu.id := by
  simp only [selectMenu, hfound]
  exact toggleMenu_of_no_menus rfl rfl rfl

/-- The control of an option of a selected menu adds the option if it was not there. -/
theorem click_option_of_mem (hfound : catalogue.findMenu? menu.id = some (category, menu))
    (hselected : menu.id ∈ sel.menuIds) (hid : id ∈ menu.optionIds)
    (hnew : id ∉ sel.optionsOf menu.id) :
    (catalogue.click sel (.option id (some menu.id))).1 = .selected true := by
  cases menu with
  | leaf menu =>
    have hhas : catalogue.hasOption id menu.id = true := by
      obtain ⟨o, hmem, ho⟩ := List.mem_map.mp hid
      refine hasOption_iff.mpr ⟨category, menu, hfound, ?_⟩
      exact List.find?_isSome.mpr ⟨o, hmem, by simpa using ho⟩
    have hcandidates : sel.candidates (some menu.id) = [menu.id] :=
      if_pos (List.contains_iff_mem.mpr hselected)
    have hfresh : (sel.optionsOf menu.id).contains id = false :=
      Bool.eq_false_iff.mpr fun hmem => hnew (List.contains_iff_mem.mp hmem)
    show ClickReply.selected (catalogue.toggleOption id (some menu.id) sel).1 = _
    rw [toggleOption, hcandidates, List.find?_cons_of_pos hhas]
    simp only [flipOption, hfresh]
    rfl
  | submenu menu => exact absurd hid List.not_mem_nil

/-- The control of an item of the one selected menu leaves nothing more to choose. -/
theorem click_item_of_mem (hfound : catalogue.findMenu? menu.id = some (category, menu))
    (hselected : sel.menuIds = [menu.id]) (hid : id ∈ menu.itemIds) (hne : id ≠ "") :
    (catalogue.click sel (.submenuItem id (some menu.id))).1 = .phase .submenu := by
  cases menu with
  | leaf menu => exact absurd hid List.not_mem_nil
  | submenu menu =>
    have hmem : menu.id ∈ sel.menuIds := by
      rw [hselected]
      exact List.mem_singleton_self _
    show ClickReply.phase (catalogue.phase (catalogue.selectItem id (some menu.id) sel)) = _
    rw [selectItem_of_mem hmem hfound hid]
    generalize hnext : { sel with submenuIds := Assoc.set menu.id id sel.submenuIds } = next
    have hitem : ((pickOf next category (.submenu menu)).item?).isSome = true := by
      obtain ⟨item, hitem, hsame⟩ := List.mem_map.mp hid
      have hget : next.submenuIds.get? menu.id = some id := by
        rw [← hnext]
        exact Assoc.get?_set_self _ _ _
      simp only [pickOf, Pick.item?, hget, Option.bind_some, String.isEmpty_iff, if_neg hne]
      exact List.find?_isSome.mpr ⟨item, hitem, by simpa using hsame⟩
    have hpicks : catalogue.picks next = [pickOf next category (.submenu menu)] := by
      have hmenus : next.menuIds = [menu.id] := by rw [← hnext]; exact hselected
      have hpick : catalogue.pick? next menu.id = some (pickOf next category (.submenu menu)) := by
        rw [pick?, show catalogue.findMenu? menu.id = some (category, .submenu menu) from hfound]
        rfl
      rw [picks, hmenus, List.filterMap_cons, hpick]
      rfl
    have hresolved : (pickOf next category (.submenu menu)).isResolved = true := hitem
    rw [phase, hpicks, Phase.ofPicks]
    simp [hresolved, hitem]

/-- A menu that does not fit is not meant, whether it is selected or not. -/
theorem find?_candidates_eq_none {fits : String → Bool} {menuId : String}
    (h : ¬ fits menuId = true) : (sel.candidates (some menuId)).find? fits = none := by
  rw [List.find?_eq_none]
  intro other hother
  rw [Selection.candidates] at hother
  split at hother
  · rw [List.mem_singleton.mp hother]
    exact h
  · exact absurd hother List.not_mem_nil

/-- An option that a menu does not have changes nothing. -/
theorem click_option_of_notMem (hfound : catalogue.findMenu? menu.id = some (category, menu))
    (hid : id ∉ menu.optionIds) (sel : Selection) :
    catalogue.click sel (.option id (some menu.id)) = (.selected false, sel) := by
  have hhas : ¬ catalogue.hasOption id menu.id = true := by
    intro hhas
    obtain ⟨category', leaf, hfound', hsome⟩ := hasOption_iff.mp hhas
    obtain ⟨rfl, rfl⟩ : category = category' ∧ menu = .leaf leaf := by simpa [hfound] using hfound'
    obtain ⟨o, ho, hsame⟩ := List.find?_isSome.mp hsome
    exact hid (List.mem_map.mpr ⟨o, ho, by simpa using hsame⟩)
  simp only [click, toggleOption, find?_candidates_eq_none hhas]

/-- An item that a menu does not have changes nothing. -/
theorem click_item_of_notMem (hfound : catalogue.findMenu? menu.id = some (category, menu))
    (hid : id ∉ menu.itemIds) (sel : Selection) :
    catalogue.click sel (.submenuItem id (some menu.id)) = (.phase (catalogue.phase sel), sel) := by
  have hhas : ¬ catalogue.hasItem id menu.id = true := by
    intro hhas
    obtain ⟨category', submenu, hfound', hsome⟩ := hasItem_iff.mp hhas
    obtain ⟨rfl, rfl⟩ : category = category' ∧ menu = .submenu submenu := by
      simpa [hfound] using hfound'
    obtain ⟨item, hitem, hsame⟩ := List.find?_isSome.mp hsome
    exact hid (List.mem_map.mpr ⟨item, hitem, by simpa using hsame⟩)
  simp only [click, selectItem, find?_candidates_eq_none hhas]

end Catalogue

/-- The items of a menu have ids. -/
theorem Menu.ne_empty_of_mem_itemIds {menu : Menu} (h : menu.WellFormed) {id : String}
    (hid : id ∈ menu.itemIds) : id ≠ "" := by
  cases menu with
  | leaf menu => exact absurd hid List.not_mem_nil
  | submenu menu =>
    obtain ⟨item, hitem, rfl⟩ := List.mem_map.mp hid
    exact (h.items item hitem).id

/-- The controls of a page are the parts of the catalogue in their order: the menus of all
categories, the options of all leaves, the items of all submenus.  If a menu is found under its own
id, the control of the menu selects it; then the control of each of its options chooses the option,
and the control of each of its items leaves nothing more to choose.  Options and items without a
control under the menu change nothing, whatever is selected. -/
theorem controls_are_catalogue {limits : Limits} {source : Source} {config : FormConfig}
    (hconfig : normalize limits source = .ok config) :
    Page.controls "select-menu" ["data-menu-id", "data-category-id", "data-kind"]
        (Page.tree config).elements =
      (config.catalogue.categories.flatMap fun category => category.menus.map fun menu =>
        ("button", [some menu.id, some category.id, some menu.kind])) ∧
    Page.controls "toggle-option" ["data-menu-id", "data-option-id"]
        (Page.tree config).elements =
      (config.catalogue.categories.flatMap fun category => category.menus.flatMap fun menu =>
        menu.optionIds.map fun id => ("button", [some menu.id, some id])) ∧
    Page.controls "select-submenu" ["data-menu-id", "data-submenu-id"]
        (Page.tree config).elements =
      (config.catalogue.categories.flatMap fun category => category.menus.flatMap fun menu =>
        menu.itemIds.map fun id => ("button", [some menu.id, some id])) ∧
    ∀ category menu, config.catalogue.findMenu? menu.id = some (category, menu) →
      ∃ chosen, (config.catalogue.click .empty (.menu menu.id)).2 = chosen ∧
        chosen.menuIds = [menu.id] ∧
        (∀ id ∈ menu.optionIds,
          (config.catalogue.click chosen (.option id (some menu.id))).1 = .selected true) ∧
        (∀ id ∈ menu.itemIds,
          (config.catalogue.click chosen (.submenuItem id (some menu.id))).1 = .phase .submenu) ∧
        ∀ sel,
          (∀ id ∉ menu.optionIds,
            config.catalogue.click sel (.option id (some menu.id)) = (.selected false, sel)) ∧
          ∀ id ∉ menu.itemIds, config.catalogue.click sel (.submenuItem id (some menu.id)) =
            (.phase (config.catalogue.phase sel), sel) := by
  refine ⟨Page.controls_selectMenu config, Page.controls_toggleOption config,
    Page.controls_selectSubmenu config, fun category menu hfound => ?_⟩
  have hmem := Catalogue.mem_of_findMenu? hfound
  have hmenu : menu.WellFormed :=
    ((wellFormed_of_normalize hconfig).catalogue.categories category hmem.1).menus menu hmem.2.1
  refine ⟨Selection.empty.addMenu menu.id, Catalogue.selectMenu_empty hfound, rfl, ?_, ?_, ?_⟩
  · intro id hid
    exact Catalogue.click_option_of_mem hfound List.mem_cons_self hid List.not_mem_nil
  · intro id hid
    exact Catalogue.click_item_of_mem hfound rfl hid (Menu.ne_empty_of_mem_itemIds hmenu hid)
  · exact fun sel => ⟨fun id hid => Catalogue.click_option_of_notMem hfound hid sel,
      fun id hid => Catalogue.click_item_of_notMem hfound hid sel⟩

/-- A salon with a leaf that has an option, and a submenu with an item. -/
def salonWithPanels : Json :=
  .obj [("basic_info", .obj []),
    ("menu_structure", .obj [("categories", .arr [
      .obj [("id", .str "hair"), ("menus", .arr [
        .obj [("id", .str "cut"), ("options", .arr [.obj [("id", .str "wash")]])],
        .obj [("id", .str "color"), ("has_submenu", .bool true),
          ("sub_menu_items", .arr [.obj [("id", .str "full")]])]])]])])]

/-- Its configuration. -/
def panelsConfig : FormConfig :=
  .ofStored ⟨salonWithPanels, salonWithPanels, .null⟩

/-- Both menus have their controls, which work; an item is no option. -/
theorem controls_are_catalogue_panels :
    normalize .standard (.value salonWithPanels) = .ok panelsConfig ∧
      Page.controls "select-menu" ["data-menu-id", "data-category-id", "data-kind"]
          (Page.tree panelsConfig).elements =
        [("button", [some "cut", some "hair", some "leaf"]),
          ("button", [some "color", some "hair", some "submenu"])] ∧
      (panelsConfig.catalogue.click (panelsConfig.catalogue.click .empty (.menu "cut")).2
        (.option "wash" (some "cut"))).1 = .selected true ∧
      (panelsConfig.catalogue.click (panelsConfig.catalogue.click .empty (.menu "color")).2
        (.submenuItem "full" (some "color"))).1 = .phase .submenu ∧
      panelsConfig.catalogue.click .empty (.option "full" (some "color")) =
        (.selected false, .empty) := by
  have hconfig : normalize .standard (.value salonWithPanels) = .ok panelsConfig := rfl
  obtain ⟨hmenus, -, -, hworks⟩ := controls_are_catalogue hconfig
  let cut : LeafMenu := ⟨"cut", "", 0, 0, [⟨"wash", "", 0, 0, false, ""⟩], "", ""⟩
  let color : SubmenuMenu := ⟨"color", "", [⟨"full", "", 0, 0, "", ""⟩], "", ""⟩
  let hair : Category := ⟨"hair", "", [.leaf cut, .submenu color], .single⟩
  have hcut : panelsConfig.catalogue.findMenu? "cut" = some (hair, .leaf cut) := by decide +kernel
  have hcolor : panelsConfig.catalogue.findMenu? "color" = some (hair, .submenu color) := by
    decide +kernel
  have hcategories : panelsConfig.catalogue.categories = [hair] := by decide +kernel
  obtain ⟨_, rfl, -, hoption, -, -⟩ := hworks hair (.leaf cut) hcut
  obtain ⟨_, rfl, -, -, hitem, hnothing⟩ := hworks hair (.submenu color) hcolor
  rw [hcategories] at hmenus
  exact ⟨hconfig, hmenus, hoption "wash" (by decide), hitem "full" (by decide),
    (hnothing .empty).1 "full" (by decide)⟩

end SalonBooking
