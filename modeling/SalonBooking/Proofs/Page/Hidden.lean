import SalonBooking.Proofs.Page.Readable

/-!
# Details that are switched off

The display options switch prices, durations and descriptions off.
`FormConfig.visible` blanks what they switch off, of menus, items and options
alike; two configurations show a customer the same if that makes them equal.

The buttons of menus and of items only show what is left (`menuButton_visible`,
`itemButton_visible`).  The button of an option also shows a description that
is switched off.  So the documents of two such configurations are equal exactly
if their options have the same descriptions: where they have, no block differs;
and where they do not, the document is read back and the descriptions with it.

* `menuEntry_congr`, `optionDescriptions_of_normal`: the two directions for one menu.
* `hidden_unless_of_option`: both for the documents of two configurations.
* `option_not_hidden`: a description of an option that is not hidden.
-/

namespace SalonBooking

/-! ## What is switched off -/

/-- An option without what is switched off. -/
def MenuOption.visible (display : DisplayOptions) (o : MenuOption) : MenuOption :=
  { o with
    price := if display.price then o.price else 0
    duration := if display.duration then o.duration else 0
    description := if display.description then o.description else "" }

/-- An item of a submenu without what is switched off. -/
def SubmenuItem.visible (display : DisplayOptions) (item : SubmenuItem) : SubmenuItem :=
  { item with
    price := if display.price then item.price else 0
    duration := if display.duration then item.duration else 0
    description := if display.description then item.description else "" }

/-- A menu without what is switched off. -/
def Menu.visible (display : DisplayOptions) : Menu → Menu
  | .leaf m => .leaf
    { m with
      price := if display.price then m.price else 0
      duration := if display.duration then m.duration else 0
      options := m.options.map (MenuOption.visible display)
      description := if display.description then m.description else "" }
  | .submenu m => .submenu
    { m with
      items := m.items.map (SubmenuItem.visible display)
      description := if display.description then m.description else "" }

/-- A category without what is switched off. -/
def Category.visible (display : DisplayOptions) (category : Category) : Category :=
  { category with menus := category.menus.map (Menu.visible display) }

/-- A catalogue without what its own display options switch off. -/
def Catalogue.visible (catalogue : Catalogue) : Catalogue :=
  { catalogue with categories := catalogue.categories.map (Category.visible catalogue.display) }

/-- A configuration without what its display options switch off. -/
def FormConfig.visible (config : FormConfig) : FormConfig :=
  { config with catalogue := config.catalogue.visible }

/-- The descriptions of the options of a menu. -/
def Menu.optionDescriptions : Menu → List String
  | .leaf m => m.options.map MenuOption.description
  | .submenu _ => []

/-- The descriptions of all options, menu by menu in each category. -/
def Catalogue.optionDescriptions (catalogue : Catalogue) : List (List (List String)) :=
  catalogue.categories.map fun category => category.menus.map Menu.optionDescriptions

/-- What two functions tell of an item may determine a third; then it does so for two lists. -/
theorem map_eq_of_map_eq {α β γ δ : Type} {f : α → β} {g : α → γ} {h : α → δ}
    (hall : ∀ a b, f a = f b → g a = g b → h a = h b) {as bs : List α}
    (hf : as.map f = bs.map f) (hg : as.map g = bs.map g) : as.map h = bs.map h := by
  induction as generalizing bs with
  | nil => rw [List.map_eq_nil_iff.mp hf.symm]
  | cons a as ih =>
    cases bs with
    | nil => exact absurd hf (List.cons_ne_nil _ _)
    | cons b bs =>
      obtain ⟨hfa, hfs⟩ := List.cons.inj hf
      obtain ⟨hga, hgs⟩ := List.cons.inj hg
      rw [List.map_cons, List.map_cons, hall a b hfa hga, ih hfs hgs]

theorem isEmpty_eq_of_map_eq {α β : Type} {f : α → β} {as bs : List α} (h : as.map f = bs.map f) :
    as.isEmpty = bs.isEmpty := by
  rw [← List.isEmpty_map, h, List.isEmpty_map]

namespace Page

/-! ## What the blocks show -/

section
variable {display : DisplayOptions}

theorem descriptionNode_visible (shown : Bool) (description : String) :
    descriptionNode shown (if shown then description else "") =
      descriptionNode shown description := by
  cases shown <;> rfl

theorem menuInfo_visible (menu : Menu) :
    menuInfo display (menu.visible display) = menuInfo display menu := by
  cases menu with
  | leaf m =>
    obtain ⟨price, duration, description, -⟩ := display
    cases price <;> cases duration <;> simp [menuInfo, Menu.visible]
  | submenu m => rfl

theorem menuButton_visible (categoryId : String) (menu : Menu) :
    menuButton display categoryId (menu.visible display) = menuButton display categoryId menu := by
  have hdescription : (menu.visible display).description =
      if display.description then menu.description else "" := by cases menu <;> rfl
  have hcontent : menuContent display (menu.visible display) = menuContent display menu := by
    rw [menuContent, hdescription, descriptionNode_visible]
    cases menu <;> rfl
  rw [menuButton, hcontent, menuInfo_visible]
  cases menu <;> rfl

theorem itemButton_visible (menuId : String) (item : SubmenuItem) :
    itemButton display menuId (item.visible display) = itemButton display menuId item := by
  simp only [itemButton, SubmenuItem.visible, descriptionNode_visible]
  cases display.price <;> cases display.duration <;> simp

/-- The button of an option shows what is left, and its description. -/
theorem optionButton_congr {o o' : MenuOption} (hvisible : o.visible display = o'.visible display)
    (hdescription : o.description = o'.description) (menuId : String) :
    optionButton display menuId o = optionButton display menuId o' := by
  have hshown (o : MenuOption) : optionButton display menuId
      { o.visible display with description := o.description } = optionButton display menuId o := by
    obtain ⟨price, duration, description, -⟩ := display
    cases price <;> cases duration <;> cases description <;> rfl
  rw [← hshown o, hvisible, hdescription, hshown]

theorem submenuPanel_congr {m m' : SubmenuMenu}
    (hvisible : (Menu.submenu m).visible display = (Menu.submenu m').visible display) :
    submenuPanel display m = submenuPanel display m' := by
  have hshown (m : SubmenuMenu) : submenuPanel display
      { m with items := m.items.map (SubmenuItem.visible display) } = submenuPanel display m := by
    simp only [submenuPanel, List.map_map, Function.comp_def, itemButton_visible]
  simp only [Menu.visible, Menu.submenu.injEq, SubmenuMenu.mk.injEq] at hvisible
  obtain ⟨hid, -, hitems, -⟩ := hvisible
  rw [← hshown m, hitems, ← hshown m', submenuPanel, submenuPanel, hid]

theorem optionsPanel_congr {m m' : LeafMenu}
    (hvisible : (Menu.leaf m).visible display = (Menu.leaf m').visible display)
    (hdescriptions : m.options.map MenuOption.description =
      m'.options.map MenuOption.description) :
    optionsPanel display m = optionsPanel display m' := by
  simp only [Menu.visible, Menu.leaf.injEq, LeafMenu.mk.injEq] at hvisible
  obtain ⟨hid, -, -, -, hoptions, -⟩ := hvisible
  have hempty : m.options.isEmpty = m'.options.isEmpty := isEmpty_eq_of_map_eq hdescriptions
  have hbuttons : m.options.map (optionButton display m.id) =
      m'.options.map (optionButton display m.id) :=
    map_eq_of_map_eq (fun o o' hvisible hdescription =>
      optionButton_congr hvisible hdescription m.id) hoptions hdescriptions
  rw [optionsPanel, optionsPanel, hempty, hbuttons, hid]

/-- Menus that show the same have the same entry if their options are described alike. -/
theorem menuEntry_congr {menu menu' : Menu}
    (hvisible : menu.visible display = menu'.visible display)
    (hdescriptions : menu.optionDescriptions = menu'.optionDescriptions) (categoryId : String) :
    menuEntry display categoryId menu = menuEntry display categoryId menu' := by
  have hbutton : menuButton display categoryId menu = menuButton display categoryId menu' := by
    rw [← menuButton_visible, hvisible, menuButton_visible]
  have hpanel : menuPanel display menu = menuPanel display menu' := by
    cases menu with
    | leaf m =>
      cases menu' with
      | leaf m' => exact optionsPanel_congr hvisible hdescriptions
      | submenu m' => exact Menu.noConfusion hvisible
    | submenu m =>
      cases menu' with
      | leaf m' => exact Menu.noConfusion hvisible
      | submenu m' => exact congrArg (fun panel => [panel]) (submenuPanel_congr hvisible)
  rw [menuEntry, hbutton, hpanel, menuEntry]

theorem categoryBlock_congr {category category' : Category}
    (hvisible : category.visible display = category'.visible display)
    (hdescriptions : category.menus.map Menu.optionDescriptions =
      category'.menus.map Menu.optionDescriptions) :
    categoryBlock display category = categoryBlock display category' := by
  simp only [Category.visible, Category.mk.injEq] at hvisible
  obtain ⟨hid, hname, hmenus, -⟩ := hvisible
  have hentries : category.menus.map (menuEntry display category.id) =
      category'.menus.map (menuEntry display category.id) :=
    map_eq_of_map_eq (fun menu menu' hvisible hdescriptions =>
      menuEntry_congr hvisible hdescriptions category.id) hmenus hdescriptions
  rw [categoryBlock, categoryBlock, hentries, hid, hname]

end

theorem menuField_congr {catalogue catalogue' : Catalogue}
    (hvisible : catalogue.visible = catalogue'.visible)
    (hdescriptions : catalogue.optionDescriptions = catalogue'.optionDescriptions) :
    menuField catalogue = menuField catalogue' := by
  simp only [Catalogue.visible, Catalogue.mk.injEq] at hvisible
  obtain ⟨hcategories, hdisplay, -⟩ := hvisible
  rw [← hdisplay] at hcategories
  have hempty : catalogue.categories.isEmpty = catalogue'.categories.isEmpty :=
    isEmpty_eq_of_map_eq hcategories
  have hblocks : catalogue.categories.map (categoryBlock catalogue.display) =
      catalogue'.categories.map (categoryBlock catalogue.display) :=
    map_eq_of_map_eq (fun _ _ => categoryBlock_congr) hcategories hdescriptions
  rw [menuField, menuField, hempty, hblocks, hdisplay]

/-- The blocks in front of the menus. -/
def beforeMenus (config : FormConfig) : List Node :=
  itemIf config.ui.showRepeatBooking repeatBookingField ++ [nameField, phoneField] ++
    choiceFields config ++ config.customFields.map customField

/-- The blocks behind the menus. -/
def afterMenus (config : FormConfig) : List Node :=
  dateFields config ++ [messageField, summaryBox, errorBox, submitButton]

theorem fields_eq (config : FormConfig) :
    fields config = beforeMenus config ++ menuField config.catalogue ++ afterMenus config := by
  rw [fields, List.append_assoc _ (dateFields config)]
  rfl

section
variable {config config' : FormConfig} (hvisible : config.visible = config'.visible)

include hvisible

theorem beforeMenus_congr : beforeMenus config = beforeMenus config' := by
  show beforeMenus config.visible = beforeMenus config'.visible
  rw [hvisible]

theorem afterMenus_congr : afterMenus config = afterMenus config' := by
  show afterMenus config.visible = afterMenus config'.visible
  rw [hvisible]

theorem tree_congr
    (hdescriptions : config.catalogue.optionDescriptions = config'.catalogue.optionDescriptions) :
    tree config = tree config' := by
  have hhead : head config.visible = head config'.visible := congrArg head hvisible
  have hheader : header config.visible.basicInfo = header config'.visible.basicInfo := by
    rw [hvisible]
  have hcatalogue : config.catalogue.visible = config'.catalogue.visible :=
    congrArg FormConfig.catalogue hvisible
  have hfields : fields config = fields config' := by
    rw [fields_eq, beforeMenus_congr hvisible, menuField_congr hcatalogue hdescriptions,
      afterMenus_congr hvisible, fields_eq]
  show el "html" [("lang", "ja")] [head config.visible, el "body" [] [el "div" _
    [header config.visible.basicInfo, el "div" _ (el "h2" _ _ :: fields config)]]] = _
  rw [hhead, hheader, hfields]
  rfl

end

/-! ## Reading the descriptions back -/

/-- Whether a node is an element; no two such nodes are read as one. -/
def isElement : Node → Bool
  | .element _ _ _ => true
  | _ => false

theorem normalNodes_eq_map {nodes : List Node} (h : nodes.all isElement = true) :
    Node.normalNodes nodes = nodes.map Node.normal := by
  induction nodes with
  | nil => rfl
  | cons node rest ih =>
    rw [List.all_cons, Bool.and_eq_true] at h
    obtain ⟨hnode, hrest⟩ := h
    cases node with
    | text s => exact Bool.noConfusion hnode
    | raw s => exact Bool.noConfusion hnode
    | element tag attrs children => rw [Node.normalNodes, ih hrest]; rfl

theorem all_isElement_itemIf {node : Node} (h : isElement node = true) (condition : Bool) :
    (itemIf condition node).all isElement = true := by
  cases condition with
  | true => exact List.all_eq_true.mpr (List.forall_mem_singleton.mpr h)
  | false => rfl

theorem all_isElement_map {α : Type} {f : α → Node} (h : ∀ a, isElement (f a) = true)
    (as : List α) : (as.map f).all isElement = true := by
  rw [List.all_map, List.all_eq_true]
  exact fun a _ => h a

theorem normalNodes_map {α : Type} {f : α → Node} (h : ∀ a, isElement (f a) = true) (as : List α) :
    Node.normalNodes (as.map f) = as.map fun a => (f a).normal := by
  rw [normalNodes_eq_map (all_isElement_map h as), List.map_map]
  rfl

/-- Elements that are read alike have children that are. -/
theorem normalNodes_of_normal_eq {tag : String} (htag : voidTags.contains tag = false)
    {attrs attrs' : List (String × AttrValue)} {children children' : List Node}
    (h : (el tag attrs children).normal = (el tag attrs' children').normal) :
    Node.normalNodes children = Node.normalNodes children' := by
  simp only [el, Node.normal, htag, Bool.false_eq_true, if_false] at h
  exact (Node.element.inj h).2.2

theorem description_of_normalNodes {description description' : String}
    (h : Node.normalNodes (descriptionNode true description) =
      Node.normalNodes (descriptionNode true description')) : description = description' := by
  have hread (text : String) : Node.normalNodes (descriptionNode true text) =
      itemIf (!text.isEmpty) (el "div" [("class", "menu-item-desc")] [.text text]) := by
    cases hempty : text.isEmpty with
    | true => rw [descriptionNode, hempty]; rfl
    | false =>
      rw [descriptionNode, hempty]
      show [el "div" _ (itemIf (!text.isEmpty) (.text text) ++ [])] = _
      rw [hempty]
      rfl
  rw [hread, hread] at h
  cases hempty : description.isEmpty <;> cases hempty' : description'.isEmpty <;>
    rw [hempty, hempty'] at h
  · simpa [itemIf, el] using h
  · exact absurd h (List.cons_ne_nil _ _)
  · exact absurd h.symm (List.cons_ne_nil _ _)
  · rw [String.isEmpty_iff.mp hempty, String.isEmpty_iff.mp hempty']

section
variable {display : DisplayOptions}

theorem description_of_normal {menuId : String} {o o' : MenuOption}
    (h : (optionButton display menuId o).normal = (optionButton display menuId o').normal) :
    o.description = o'.description := by
  have hparts := normalNodes_of_normal_eq rfl h
  have hname := normalNodes_of_normal_eq rfl (List.cons.inj hparts).1
  exact description_of_normalNodes (List.cons.inj hname).2

theorem descriptions_of_normalNodes {m m' : LeafMenu}
    (hoptions : m.options.map (MenuOption.visible display) =
      m'.options.map (MenuOption.visible display))
    (hid : m.id = m'.id)
    (h : Node.normalNodes (optionsPanel display m) = Node.normalNodes (optionsPanel display m')) :
    m.options.map MenuOption.description = m'.options.map MenuOption.description := by
  have hempty : m.options.isEmpty = m'.options.isEmpty := isEmpty_eq_of_map_eq hoptions
  cases hsome : m.options.isEmpty with
  | true =>
    rw [hsome] at hempty
    rw [List.isEmpty_iff.mp hsome, List.isEmpty_iff.mp hempty.symm]
  | false =>
    rw [optionsPanel, optionsPanel, ← hempty, hsome, ← hid] at h
    have hpanel := normalNodes_of_normal_eq rfl (List.cons.inj h).1
    have hbuttons : Node.normalNodes (m.options.map (optionButton display m.id)) =
      Node.normalNodes (m'.options.map (optionButton display m.id)) := (List.cons.inj hpanel).2
    rw [normalNodes_map fun _ => rfl, normalNodes_map fun _ => rfl] at hbuttons
    exact map_eq_of_map_eq (fun o o' _ hbutton => description_of_normal hbutton) hoptions hbuttons

theorem optionDescriptions_of_normal {categoryId : String} {menu menu' : Menu}
    (hvisible : menu.visible display = menu'.visible display)
    (h : (menuEntry display categoryId menu).normal = (menuEntry display categoryId menu').normal) :
    menu.optionDescriptions = menu'.optionDescriptions := by
  have hparts := normalNodes_of_normal_eq rfl h
  have hpanel : Node.normalNodes (menuPanel display menu) =
    Node.normalNodes (menuPanel display menu') := (List.cons.inj hparts).2
  cases menu with
  | leaf m =>
    cases menu' with
    | leaf m' =>
      simp only [Menu.visible, Menu.leaf.injEq, LeafMenu.mk.injEq] at hvisible
      exact descriptions_of_normalNodes hvisible.2.2.2.2.1 hvisible.1 hpanel
    | submenu m' => exact Menu.noConfusion hvisible
  | submenu m =>
    cases menu' with
    | leaf m' => exact Menu.noConfusion hvisible
    | submenu m' => rfl

theorem menuDescriptions_of_normal {category category' : Category}
    (hvisible : category.visible display = category'.visible display)
    (h : (categoryBlock display category).normal = (categoryBlock display category').normal) :
    category.menus.map Menu.optionDescriptions = category'.menus.map Menu.optionDescriptions := by
  simp only [Category.visible, Category.mk.injEq] at hvisible
  obtain ⟨hid, hname, hmenus, -⟩ := hvisible
  have hname' (node : Node) (hnode : isElement node = true) : (itemIf (!category'.name.isEmpty)
      (el "div" [("class", "category-name")] [category'.name]) ++ [node]).all isElement = true := by
    rw [List.all_append, all_isElement_itemIf rfl]
    exact all_isElement_itemIf hnode true
  have hparts := normalNodes_of_normal_eq rfl h
  rw [hid, hname, normalNodes_eq_map (hname' _ rfl), normalNodes_eq_map (hname' _ rfl),
    List.map_append, List.map_append, List.append_cancel_left_eq] at hparts
  have hmenu := normalNodes_of_normal_eq rfl (List.cons.inj hparts).1
  rw [normalNodes_map fun _ => rfl, normalNodes_map fun _ => rfl] at hmenu
  exact map_eq_of_map_eq (fun _ _ => optionDescriptions_of_normal) hmenus hmenu

end

theorem optionDescriptions_of_normalNodes {catalogue catalogue' : Catalogue}
    (hvisible : catalogue.visible = catalogue'.visible)
    (h : Node.normalNodes (menuField catalogue) = Node.normalNodes (menuField catalogue')) :
    catalogue.optionDescriptions = catalogue'.optionDescriptions := by
  simp only [Catalogue.visible, Catalogue.mk.injEq] at hvisible
  obtain ⟨hcategories, hdisplay, -⟩ := hvisible
  rw [← hdisplay] at hcategories
  have hempty : catalogue.categories.isEmpty = catalogue'.categories.isEmpty :=
    isEmpty_eq_of_map_eq hcategories
  rw [Catalogue.optionDescriptions, Catalogue.optionDescriptions]
  cases hsome : catalogue.categories.isEmpty with
  | true =>
    rw [hsome] at hempty
    rw [List.isEmpty_iff.mp hsome, List.isEmpty_iff.mp hempty.symm]
  | false =>
    rw [menuField, menuField, ← hempty, hsome, ← hdisplay] at h
    have hfield := normalNodes_of_normal_eq rfl (List.cons.inj h).1
    have hblocks : Node.normalNodes (catalogue.categories.map (categoryBlock catalogue.display)) =
        Node.normalNodes (catalogue'.categories.map (categoryBlock catalogue.display)) :=
      (List.cons.inj hfield).2
    rw [normalNodes_map fun _ => rfl, normalNodes_map fun _ => rfl] at hblocks
    exact map_eq_of_map_eq (fun _ _ => menuDescriptions_of_normal) hcategories hblocks

theorem all_isElement_menuField (catalogue : Catalogue) :
    (menuField catalogue).all isElement = true :=
  all_isElement_itemIf rfl _

theorem all_isElement_fields (config : FormConfig) : (fields config).all isElement = true := by
  have hcustom : (config.customFields.map customField).all isElement = true := by
    refine all_isElement_map (fun field => ?_) config.customFields
    cases hkind : field.kind <;> rw [customField, hkind] <;> rfl
  have hchoices : (choiceFields config).all isElement = true := by
    simp only [choiceFields, List.all_append, Bool.and_eq_true]
    exact ⟨⟨all_isElement_itemIf rfl _, all_isElement_itemIf rfl _⟩, all_isElement_itemIf rfl _⟩
  have hdates : (dateFields config).all isElement = true := by
    rw [dateFields]
    split
    · exact all_isElement_map (fun _ => rfl) pickerTitles
    · rfl
  have hrepeat : (itemIf config.ui.showRepeatBooking repeatBookingField).all isElement = true :=
    all_isElement_itemIf rfl _
  simp only [fields, List.all_append, hrepeat, hcustom, hchoices, hdates, all_isElement_menuField]
  rfl

/-- Documents that are read alike describe the options alike. -/
theorem optionDescriptions_of_tree {config config' : FormConfig}
    (hvisible : config.visible = config'.visible)
    (h : (tree config).normal = (tree config').normal) :
    config.catalogue.optionDescriptions = config'.catalogue.optionDescriptions := by
  have hdocument := normalNodes_of_normal_eq rfl h
  have hbody := normalNodes_of_normal_eq rfl (List.cons.inj (List.cons.inj hdocument).2).1
  have hform := normalNodes_of_normal_eq rfl (List.cons.inj hbody).1
  have hcontent := normalNodes_of_normal_eq rfl (List.cons.inj (List.cons.inj hform).2).1
  have hfields : Node.normalNodes (fields config) = Node.normalNodes (fields config') :=
    (List.cons.inj hcontent).2
  have hcatalogue : config.catalogue.visible = config'.catalogue.visible :=
    congrArg FormConfig.catalogue hvisible
  rw [normalNodes_eq_map (all_isElement_fields _), normalNodes_eq_map (all_isElement_fields _),
    fields_eq, fields_eq, ← beforeMenus_congr hvisible, ← afterMenus_congr hvisible] at hfields
  simp only [List.map_append, List.append_cancel_left_eq, List.append_cancel_right_eq] at hfields
  refine optionDescriptions_of_normalNodes hcatalogue ?_
  rw [normalNodes_eq_map (all_isElement_menuField _), hfields,
    normalNodes_eq_map (all_isElement_menuField _)]

theorem exists_render_tree {config : FormConfig} (h : config.WellFormed) (limits : Limits) :
    ∃ html, (tree config).render limits = .ok html ∧
      Node.parse? html = some (tree config).normal := by
  have hcontainer := isTidy_of_isBlock Markup.RawWithoutEnd _ (isBlock_container config)
  have htidy : (tree config).IsTidy Markup.RawWithoutEnd :=
    isTidy_el rfl ⟨isTidy_head h, isTidy_el rfl ⟨hcontainer, trivial⟩, trivial⟩
  obtain ⟨html, hhtml⟩ := exists_render_of_isTidy htidy
    (not_isOverlong_treeWith config (List.forall_mem_nil _))
  exact ⟨html, hhtml, Markup.parse?_render htidy hhtml⟩

/-- So do documents of one text. -/
theorem optionDescriptions_of_render {limits : Limits} {config config' : FormConfig}
    (h : config.WellFormed) (h' : config'.WellFormed) (hvisible : config.visible = config'.visible)
    (heq : (tree config).render limits = (tree config').render limits) :
    config.catalogue.optionDescriptions = config'.catalogue.optionDescriptions := by
  obtain ⟨html, hhtml, hread⟩ := exists_render_tree h limits
  obtain ⟨html', hhtml', hread'⟩ := exists_render_tree h' limits
  rw [hhtml, hhtml'] at heq
  rw [Except.ok.inj heq, hread'] at hread
  exact optionDescriptions_of_tree hvisible (Option.some.inj hread).symm

end Page

/-- Documents of configurations that differ in switched-off details only are equal exactly if the
descriptions of their options are. -/
theorem hidden_unless_of_option {limits : Limits} {source source' : Source}
    {config config' : FormConfig} (h : normalize limits source = .ok config)
    (h' : normalize limits source' = .ok config')
    (hvisible : config.visible = config'.visible) :
    ∃ html html', (Page.tree config).render limits = .ok html ∧
      (Page.tree config').render limits = .ok html' ∧
      (html = html' ↔
        config.catalogue.optionDescriptions = config'.catalogue.optionDescriptions) := by
  have hwell := wellFormed_of_normalize h
  have hwell' := wellFormed_of_normalize h'
  obtain ⟨html, hhtml, -⟩ := Page.exists_render_tree hwell limits
  obtain ⟨html', hhtml', -⟩ := Page.exists_render_tree hwell' limits
  refine ⟨html, html', hhtml, hhtml', fun heq => ?_, fun hdescriptions => ?_⟩
  · have hrender : (Page.tree config).render limits = (Page.tree config').render limits := by
      rw [hhtml, hhtml', heq]
    exact Page.optionDescriptions_of_render hwell hwell' hvisible hrender
  · rw [Page.tree_congr hvisible hdescriptions, hhtml'] at hhtml
    exact (Except.ok.inj hhtml).symm

/-- A form that hides descriptions, with one menu, which has one option. -/
def shyForm (price : Int) (menuDescription optionDescription : String) : Json :=
  .obj [("basic_info", .obj []), ("menu_structure", .obj [
    ("display_options", .obj [("show_description", .bool false), ("show_price", .bool false)]),
    ("categories", .arr [.obj [("menus", .arr [.obj [("price", .int price),
      ("description", .str menuDescription), ("options", .arr [.obj [
        ("description", .str optionDescription)]])]])]])])]

/-- Neither the price nor the description of the menu is shown. -/
theorem hidden_unless_of_option_menu :
    ∃ config config', normalize .standard (.value (shyForm 1 "a" "x")) = .ok config ∧
      normalize .standard (.value (shyForm 2 "b" "x")) = .ok config' ∧ config ≠ config' ∧
      config.visible = config'.visible ∧
      ∃ html html', (Page.tree config).render .standard = .ok html ∧
        (Page.tree config').render .standard = .ok html' ∧ html = html' := by
  have hform : normalize .standard (.value (shyForm 1 "a" "x")) = .ok _ := rfl
  have hform' : normalize .standard (.value (shyForm 2 "b" "x")) = .ok _ := rfl
  refine ⟨_, _, hform, hform', by decide +kernel, ?hvisible, ?_⟩
  · decide +kernel
  obtain ⟨html, html', hhtml, hhtml', hiff⟩ := hidden_unless_of_option hform hform' ?hvisible
  exact ⟨html, html', hhtml, hhtml', hiff.mpr (by decide +kernel)⟩

/-- The description of an option is shown where descriptions are switched off. -/
theorem option_not_hidden :
    ∃ config config', normalize .standard (.value (shyForm 0 "" "")) = .ok config ∧
      normalize .standard (.value (shyForm 0 "" "hidden")) = .ok config' ∧
      config.visible = config'.visible ∧
      (Page.tree config).render .standard ≠ (Page.tree config').render .standard := by
  have hform : normalize .standard (.value (shyForm 0 "" "")) = .ok _ := rfl
  have hform' : normalize .standard (.value (shyForm 0 "" "hidden")) = .ok _ := rfl
  refine ⟨_, _, hform, hform', ?hvisible, fun heq => ?_⟩
  · decide +kernel
  have hdescriptions := Page.optionDescriptions_of_render (wellFormed_of_normalize hform)
    (wellFormed_of_normalize hform') ?hvisible heq
  exact absurd hdescriptions (by decide +kernel)

end SalonBooking
