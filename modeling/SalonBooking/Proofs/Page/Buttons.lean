import SalonBooking.Proofs.Page.Controls

/-!
# Finding the buttons of the menus

Who looks for the control of a menu, an option or an item on a page finds the
first element that starts the action and has the ids.  Several menus may have
one id: the first button is that of the menu which is found under the id, since
the page shows the menus in the order in which they are searched.

* `find?_tree`: the search walks the catalogue.
* `findSome?_of_findMenu?`: what only the menus of an id have is found in the menu that the
  catalogue finds under the id.
* `menuControl?_tree`, `optionControl?_tree`, `itemControl?_tree`: what is found on a page.
-/

namespace SalonBooking

namespace Node

mutual

/-- The first element of a tree, in document order, whose attributes pass a test. -/
def find? (test : Assoc String AttrValue → Bool) : Node → Option Node
  | .text _ => none
  | .raw _ => none
  | .element tag attrs children =>
    if test attrs then some (.element tag attrs children) else findIn? test children

/-- The same for some trees one after the other. -/
def findIn? (test : Assoc String AttrValue → Bool) : List Node → Option Node
  | [] => none
  | child :: rest => (find? test child).or (findIn? test rest)

end

variable {test : Assoc String AttrValue → Bool}

theorem findIn?_cons (child : Node) (rest : List Node) :
    findIn? test (child :: rest) = (child.find? test).or (findIn? test rest) := by
  rw [findIn?]

theorem findIn?_append (nodes others : List Node) :
    findIn? test (nodes ++ others) = (findIn? test nodes).or (findIn? test others) := by
  induction nodes with
  | nil => rfl
  | cons node rest ih => rw [List.cons_append, findIn?, findIn?, ih, Option.or_assoc]

theorem findIn?_map {α : Type} (f : α → Node) (as : List α) :
    findIn? test (as.map f) = as.findSome? fun a => (f a).find? test := by
  induction as with
  | nil => rfl
  | cons a rest ih =>
    rw [List.map_cons, findIn?, ih, List.findSome?_cons]
    cases (f a).find? test <;> rfl

mutual

/-- Nothing is found where no element passes the test. -/
theorem find?_eq_none : ∀ node : Node, (∀ element ∈ node.elements, test element.2 = false) →
    node.find? test = none
  | .text _, _ => rfl
  | .raw _, _ => rfl
  | .element tag attrs children, h => by
    rw [elements, List.forall_mem_cons] at h
    rw [find?, h.1, findIn?_eq_none children h.2]
    rfl

theorem findIn?_eq_none : ∀ nodes : List Node,
    (∀ element ∈ elementsOf nodes, test element.2 = false) → findIn? test nodes = none
  | [], _ => rfl
  | node :: rest, h => by
    rw [elementsOf, List.forall_mem_append] at h
    rw [findIn?, find?_eq_none node h.1, findIn?_eq_none rest h.2]
    rfl

end

end Node

namespace Page

open Node

/-- Whether attributes start an action and have some texts. -/
def isControl (action : String) (marks : List (String × String)) (attrs : Assoc String AttrValue) :
    Bool :=
  actionOf? attrs == some action && marks.all fun (name, value) => textAttr attrs name == some value

section
variable {action own : String} {marks : List (String × String)} {tag : String}
  {attrs : Assoc String AttrValue} {node : Node} {children nodes : List Node}

theorem isControl_of_ne (h : actionOf? attrs ≠ some action) :
    isControl action marks attrs = false := by
  rw [isControl, beq_false_of_ne h, Bool.false_and]

theorem find?_el_of_ne (h : actionOf? attrs ≠ some action) :
    (el tag attrs children).find? (isControl action marks) =
      findIn? (isControl action marks) children := by
  rw [el, find?, isControl_of_ne h]
  rfl

/-- Where no element starts the action nothing is found. -/
theorem findIn?_of_controls_eq_nil (h : controls action [] (elementsOf nodes) = []) :
    findIn? (isControl action marks) nodes = none := by
  rw [controls, List.map_eq_nil_iff, List.filter_eq_nil_iff] at h
  exact findIn?_eq_none nodes fun element helement =>
    isControl_of_ne (by simpa using h element helement)

theorem findIn?_of_lacksControls (h : lacksControls nodes = true) (haction : action ∈ menuActions) :
    findIn? (isControl action marks) nodes = none :=
  findIn?_of_controls_eq_nil (controls_of_lacksControls h haction)

/-- In a button that is its only control nothing is found but the button itself. -/
theorem find?_button (hown : actionOf? attrs = some own) {control : String × List (Option String)}
    (hcontrols : controls action [] (el tag attrs children).elements =
      itemIf (own == action) control) :
    (el tag attrs children).find? (isControl action marks) =
      if isControl action marks attrs then some (el tag attrs children) else none := by
  have hchildren : controls action [] (elementsOf children) = [] := by
    by_cases heq : own = action
    · rw [controls_el_of_eq (heq ▸ hown), heq, beq_self_eq_true] at hcontrols
      exact (List.cons.inj hcontrols).2
    · have hne : actionOf? attrs ≠ some action := by
        rw [hown]
        exact fun h => heq (Option.some.inj h)
      rw [controls_el_of_ne hne, beq_false_of_ne heq] at hcontrols
      exact hcontrols
  rw [el, find?, findIn?_of_controls_eq_nil hchildren]

end

/-! ## Searches that agree -/

/-- Where only the item that one search finds passes another, the other finds it too. -/
theorem findSome?_of_find? {α β : Type} {p : α → Bool} {f : α → Option β} {as : List α} {a : α}
    {b : β} (hfound : as.find? p = some a) (hothers : ∀ other, p other = false → f other = none)
    (ha : f a = some b) : as.findSome? f = some b := by
  obtain ⟨-, before, after, rfl, hbefore⟩ := List.find?_eq_some_iff_append.mp hfound
  refine List.findSome?_eq_some_iff.mpr ⟨before, a, after, rfl, ha, fun other hother => ?_⟩
  exact hothers other (by simpa using hbefore other hother)

theorem findSome?_of_findMenu? {catalogue : Catalogue} {id : String} {category : Category}
    {menu : Menu} {α : Type} {f : Category → Menu → Option α} {a : α}
    (hfound : catalogue.findMenu? id = some (category, menu))
    (hothers : ∀ category menu, menu.id ≠ id → f category menu = none)
    (hmenu : f category menu = some a) :
    (catalogue.categories.findSome? fun category => category.menus.findSome? (f category)) =
      some a := by
  obtain ⟨before, first, after, hcategories, hfirst, hbefore⟩ :=
    List.findSome?_eq_some_iff.mp hfound
  obtain ⟨found, hfind, heq⟩ := Option.map_eq_some_iff.mp hfirst
  obtain ⟨rfl, rfl⟩ : first = category ∧ found = menu := by simpa using heq
  refine List.findSome?_eq_some_iff.mpr ⟨before, first, after, hcategories, ?_, ?_⟩
  · exact findSome?_of_find? hfind
      (fun other hother => hothers first other (by simpa using hother)) hmenu
  · intro earlier hearlier
    have hnone := Option.map_eq_none_iff.mp (hbefore earlier hearlier)
    refine List.findSome?_eq_none_iff.mpr fun other hother => hothers earlier other ?_
    simpa using List.find?_eq_none.mp hnone other hother

/-! ## The search on a page -/

section
variable {action : String} {marks : List (String × String)} (haction : action ∈ menuActions)

include haction

/-- In a panel the buttons are searched one after the other. -/
theorem findIn?_menuPanel (display : DisplayOptions) (menu : Menu) :
    findIn? (isControl action marks) (menuPanel display menu) =
      match menu with
      | .leaf menu => menu.options.findSome? fun o =>
          (optionButton display menu.id o).find? (isControl action marks)
      | .submenu menu => menu.items.findSome? fun item =>
          (itemButton display menu.id item).find? (isControl action marks) := by
  have hplain {text : String} {attrs : Assoc String AttrValue} (h : lacksAction attrs = true) :
      (el "div" attrs [.text text]).find? (isControl action marks) = none := by
    rw [find?_el_of_ne (ne_of_lacksAction h haction)]
    rfl
  cases menu with
  | leaf menu =>
    rw [menuPanel, optionsPanel]
    show _ = menu.options.findSome? _
    cases hoptions : menu.options with
    | nil => rfl
    | cons o rest =>
      rw [← hoptions]
      have hsome : (!menu.options.isEmpty) = true := by rw [hoptions]; rfl
      rw [hsome, itemIf_true, findIn?_cons, find?_el_of_ne (ne_of_lacksAction rfl haction),
        findIn?_cons, hplain rfl, Option.none_or, findIn?_map]
      exact Option.or_none
  | submenu menu =>
    rw [menuPanel, submenuPanel, findIn?_cons, find?_el_of_ne (ne_of_lacksAction rfl haction),
      findIn?_cons, hplain rfl, Option.none_or, findIn?_map]
    exact Option.or_none

theorem find?_menuEntry (display : DisplayOptions) (categoryId : String) (menu : Menu) :
    (menuEntry display categoryId menu).find? (isControl action marks) =
      ((menuButton display categoryId menu).find? (isControl action marks)).or
        (findIn? (isControl action marks) (menuPanel display menu)) := by
  rw [menuEntry, find?_el_of_ne (ne_of_lacksAction rfl haction), findIn?_cons]

theorem find?_categoryBlock (display : DisplayOptions) (category : Category) :
    (categoryBlock display category).find? (isControl action marks) =
      category.menus.findSome? fun menu =>
        (menuEntry display category.id menu).find? (isControl action marks) := by
  have hname : lacksControls (itemIf (!category.name.isEmpty)
      (el "div" [("class", "category-name")] [category.name])) = true :=
    lacksControls_itemIf rfl _
  rw [categoryBlock, find?_el_of_ne (ne_of_lacksAction rfl haction), findIn?_append,
    findIn?_of_lacksControls hname haction, Option.none_or, findIn?_cons,
    find?_el_of_ne (ne_of_lacksAction rfl haction), findIn?_map]
  exact Option.or_none

theorem findIn?_menuField (catalogue : Catalogue) :
    findIn? (isControl action marks) (menuField catalogue) =
      catalogue.categories.findSome? fun category =>
        (categoryBlock catalogue.display category).find? (isControl action marks) := by
  rw [menuField]
  cases hcategories : catalogue.categories with
  | nil => rfl
  | cons category rest =>
    rw [← hcategories]
    have hsome : (!catalogue.categories.isEmpty) = true := by rw [hcategories]; rfl
    rw [hsome, itemIf_true, findIn?_cons, find?_el_of_ne (ne_of_lacksAction rfl haction),
      ← List.singleton_append, findIn?_append,
      findIn?_of_lacksControls (lacksControls_label _ _ _) haction, Option.none_or, findIn?_map]
    exact Option.or_none

/-- The search on a page goes through the menus in their order. -/
theorem find?_tree (config : FormConfig) :
    (tree config).find? (isControl action marks) =
      config.catalogue.categories.findSome? fun category => category.menus.findSome? fun menu =>
        (menuEntry config.catalogue.display category.id menu).find? (isControl action marks) := by
  have hfields : findIn? (isControl action marks) (fields config) =
      findIn? (isControl action marks) (menuField config.catalogue) := by
    rw [fields, List.append_assoc _ (dateFields config), findIn?_append, findIn?_append,
      findIn?_of_lacksControls (lacksControls_beforeMenus config) haction,
      findIn?_of_lacksControls (lacksControls_afterMenus config) haction, Option.or_none,
      Option.none_or]
  have htitle : lacksControls [el "h2" [("class", "section-title")] ["ご予約内容"]] = true := rfl
  have hcontainer : (container config).find? (isControl action marks) =
      findIn? (isControl action marks) (fields config) := by
    rw [container, find?_el_of_ne (ne_of_lacksAction rfl haction), ← List.singleton_append,
      findIn?_append, findIn?_of_lacksControls (lacksControls_header _) haction, Option.none_or,
      findIn?_cons, find?_el_of_ne (ne_of_lacksAction rfl haction), ← List.singleton_append,
      findIn?_append, findIn?_of_lacksControls htitle haction, Option.none_or]
    exact Option.or_none
  have hhead : lacksControls [head config] = true := rfl
  have htree : (tree config).find? (isControl action marks) =
      (container config).find? (isControl action marks) := by
    rw [tree, treeWith, find?_el_of_ne (ne_of_lacksAction rfl haction), ← List.singleton_append,
      findIn?_append, findIn?_of_lacksControls hhead haction, Option.none_or, findIn?_cons,
      find?_el_of_ne (ne_of_lacksAction rfl haction), findIn?_cons]
    exact Option.or_none.trans Option.or_none
  rw [htree, hcontainer, hfields, findIn?_menuField haction]
  congr 1
  funext category
  exact find?_categoryBlock haction _ category

end

/-! ## What is found -/

/-- The control of a menu: the first element that selects the menu of an id. -/
def menuControl? (menuId : String) : Node → Option Node :=
  find? (isControl "select-menu" [("data-menu-id", menuId)])

/-- The control of an option of a menu. -/
def optionControl? (menuId optionId : String) : Node → Option Node :=
  find? (isControl "toggle-option" [("data-menu-id", menuId), ("data-option-id", optionId)])

/-- The control of an item of a menu. -/
def itemControl? (menuId itemId : String) : Node → Option Node :=
  find? (isControl "select-submenu" [("data-menu-id", menuId), ("data-submenu-id", itemId)])

section
variable {action menuId : String} {marks : List (String × String)} {attrs : Assoc String AttrValue}

theorem isControl_of_eq (haction : actionOf? attrs = some action)
    (hmarks : ∀ mark ∈ marks, textAttr attrs mark.1 = some mark.2) :
    isControl action marks attrs = true := by
  rw [isControl, Bool.and_eq_true, haction, List.all_eq_true]
  exact ⟨beq_self_eq_true _, fun mark hmark => beq_iff_eq.mpr (hmarks mark hmark)⟩

theorem isControl_of_action_ne {own : String} (hown : actionOf? attrs = some own)
    (hne : own ≠ action) : isControl action marks attrs = false :=
  isControl_of_ne fun h => hne (Option.some.inj (hown.symm.trans h))

theorem isControl_of_mark_ne {name value own : String} (hmark : (name, value) ∈ marks)
    (hown : textAttr attrs name = some own) (hne : own ≠ value) :
    isControl action marks attrs = false := by
  rw [isControl, Bool.and_eq_false_iff]
  refine Or.inr (List.all_eq_false.mpr ⟨(name, value), hmark, ?_⟩)
  simpa [hown] using hne

variable (display : DisplayOptions)

theorem find?_menuButton (haction : action ∈ menuActions) (categoryId : String) (menu : Menu) :
    (menuButton display categoryId menu).find? (isControl action marks) =
      if isControl action marks [("type", "button"), ("class", "menu-item"),
        ("data-action", "select-menu"), ("data-menu-id", menu.id), ("data-category-id", categoryId),
        ("data-kind", menu.kind)] then some (menuButton display categoryId menu) else none :=
  find?_button rfl (controls_menuButton display haction categoryId menu)

theorem find?_optionButton (haction : action ∈ menuActions) (menuId : String) (o : MenuOption) :
    (optionButton display menuId o).find? (isControl action marks) =
      if isControl action marks [("type", "button"), ("class", "option-item"),
        ("data-action", "toggle-option"), ("data-menu-id", menuId), ("data-option-id", o.id)] then
        some (optionButton display menuId o) else none :=
  find?_button rfl (controls_optionButton display haction menuId o)

theorem find?_itemButton (haction : action ∈ menuActions) (menuId : String) (item : SubmenuItem) :
    (itemButton display menuId item).find? (isControl action marks) =
      if isControl action marks [("type", "button"), ("class", "submenu-item"),
        ("data-action", "select-submenu"), ("data-menu-id", menuId),
        ("data-submenu-id", item.id)] then
        some (itemButton display menuId item) else none :=
  find?_button rfl (controls_itemButton display haction menuId item)

/-- Beside a menu and in its panel there is no control of a menu of another id. -/
theorem find?_menuEntry_of_ne (haction : action ∈ menuActions)
    (hmark : ("data-menu-id", menuId) ∈ marks) (categoryId : String) {menu : Menu}
    (hne : menu.id ≠ menuId) :
    (menuEntry display categoryId menu).find? (isControl action marks) = none := by
  have hother {attrs : Assoc String AttrValue}
      (hown : textAttr attrs "data-menu-id" = some menu.id) :
      isControl action marks attrs = false := isControl_of_mark_ne hmark hown hne
  have hpanel : findIn? (isControl action marks) (menuPanel display menu) = none := by
    rw [findIn?_menuPanel haction]
    cases menu with
    | leaf menu =>
      refine List.findSome?_eq_none_iff.mpr fun o _ => ?_
      rw [find?_optionButton display haction, hother rfl]
      rfl
    | submenu menu =>
      refine List.findSome?_eq_none_iff.mpr fun item _ => ?_
      rw [find?_itemButton display haction, hother rfl]
      rfl
  rw [find?_menuEntry haction, find?_menuButton display haction, hother rfl, hpanel]
  rfl

end

section
variable {config : FormConfig} {menuId : String} {category : Category}

/-- What is looked for in the menus of an id is found in the menu that is found under it. -/
theorem find?_tree_of_found {action : String} {marks : List (String × String)} {menu : Menu}
    {node : Node} (haction : action ∈ menuActions)
    (hfound : config.catalogue.findMenu? menuId = some (category, menu))
    (hmark : ("data-menu-id", menuId) ∈ marks)
    (hnode : (menuEntry config.catalogue.display category.id menu).find? (isControl action marks) =
      some node) : (tree config).find? (isControl action marks) = some node := by
  rw [find?_tree haction]
  exact findSome?_of_findMenu? hfound
    (fun _ _ hne => find?_menuEntry_of_ne _ haction hmark _ hne) hnode

/-- The menu that is found under an id has the first control of this id. -/
theorem menuControl?_tree {menu : Menu}
    (hfound : config.catalogue.findMenu? menuId = some (category, menu)) :
    menuControl? menuId (tree config) =
      some (menuButton config.catalogue.display category.id menu) := by
  obtain rfl := Catalogue.findMenu?_id hfound
  have haction : "select-menu" ∈ menuActions := by decide
  refine find?_tree_of_found haction hfound List.mem_cons_self ?_
  rw [find?_menuEntry haction, find?_menuButton _ haction,
    isControl_of_eq rfl (List.forall_mem_singleton.mpr rfl)]
  rfl

/-- So has the option that a leaf finds under its own id. -/
theorem optionControl?_tree {leaf : LeafMenu} {o : MenuOption}
    (hfound : config.catalogue.findMenu? menuId = some (category, .leaf leaf))
    (hoption : leaf.findOption? o.id = some o) :
    optionControl? menuId o.id (tree config) =
      some (optionButton config.catalogue.display menuId o) := by
  obtain rfl : leaf.id = menuId := Catalogue.findMenu?_id hfound
  have haction : "toggle-option" ∈ menuActions := by decide
  refine find?_tree_of_found haction hfound List.mem_cons_self ?_
  rw [find?_menuEntry haction, find?_menuButton _ haction, isControl_of_action_ne rfl (by decide),
    findIn?_menuPanel haction]
  refine findSome?_of_find? hoption (fun other hother => ?_) ?_
  · rw [find?_optionButton _ haction, isControl_of_mark_ne
      (List.mem_cons_of_mem _ List.mem_cons_self) rfl (by simpa using hother)]
    rfl
  · rw [find?_optionButton _ haction, isControl_of_eq rfl
      (List.forall_mem_cons.mpr ⟨rfl, List.forall_mem_singleton.mpr rfl⟩)]
    rfl

/-- So has the item that a submenu finds under its own id. -/
theorem itemControl?_tree {submenu : SubmenuMenu} {item : SubmenuItem}
    (hfound : config.catalogue.findMenu? menuId = some (category, .submenu submenu))
    (hitem : submenu.findItem? item.id = some item) :
    itemControl? menuId item.id (tree config) =
      some (itemButton config.catalogue.display menuId item) := by
  obtain rfl : submenu.id = menuId := Catalogue.findMenu?_id hfound
  have haction : "select-submenu" ∈ menuActions := by decide
  refine find?_tree_of_found haction hfound List.mem_cons_self ?_
  rw [find?_menuEntry haction, find?_menuButton _ haction, isControl_of_action_ne rfl (by decide),
    findIn?_menuPanel haction]
  refine findSome?_of_find? hitem (fun other hother => ?_) ?_
  · rw [find?_itemButton _ haction, isControl_of_mark_ne
      (List.mem_cons_of_mem _ List.mem_cons_self) rfl (by simpa using hother)]
    rfl
  · rw [find?_itemButton _ haction, isControl_of_eq rfl
      (List.forall_mem_cons.mpr ⟨rfl, List.forall_mem_singleton.mpr rfl⟩)]
    rfl

end

end Page

end SalonBooking
