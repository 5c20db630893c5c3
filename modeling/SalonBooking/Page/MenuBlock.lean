import SalonBooking.Page.Fields

/-!
# The menus on the page

Every menu is a button; a leaf with options and a submenu have a panel beside
the button, hidden until the menu is chosen.  The display options decide
whether prices, durations and descriptions are shown.
-/

namespace SalonBooking.Page

/-- Digits in reverse with a comma after every three that more follow. -/
def groupReversed : List Char → List Char
  | a :: b :: c :: d :: rest => a :: b :: c :: ',' :: groupReversed (d :: rest)
  | short => short

/-- A number with commas between groups of three digits. -/
def grouped (n : Nat) : String :=
  String.ofList (groupReversed (toString n).toList.reverse).reverse

/-- An amount of money. -/
def yen (n : Nat) : String :=
  "¥" ++ grouped n

/-- A duration. -/
def minutesText (n : Nat) : String :=
  toString n ++ "分"

/-- The address of an image as an element above a menu's name. -/
def menuImage (menu : Menu) : List Node :=
  itemIf (!menu.image.isEmpty)
    (el "div" [("class", "menu-item-image")]
      [el "img" [("src", menu.image), ("alt", menu.name), ("class", "menu-image"),
        ("loading", "lazy")] []])

/-- A description, if it is shown and there is one. -/
def descriptionNode (shown : Bool) (description : String) : List Node :=
  itemIf (shown && !description.isEmpty) (el "div" [("class", "menu-item-desc")] [description])

/-- The name and the description of a menu. -/
def menuContent (display : DisplayOptions) (menu : Menu) : Node :=
  el "div" [("class", "menu-item-content")]
    (el "div" [("class", "menu-item-name")]
        [.text (menu.name ++ if menu.hasSubmenu then " ▶" else "")] ::
      descriptionNode display.description menu.description)

/-- The price and the duration of a menu. -/
def menuInfo (display : DisplayOptions) : Menu → Node
  | .leaf m =>
    el "div" [("class", "menu-item-info")]
      (itemIf display.price (el "div" [("class", "menu-item-price")] [yen m.price]) ++
        itemIf (display.duration && m.duration != 0)
          (el "div" [("class", "menu-item-duration")] [minutesText m.duration]))
  | .submenu _ =>
    el "div" [("class", "menu-item-info")]
      [el "div" [("class", "menu-item-desc")] ["サブメニューを選択"]]

/-- The button of a menu. -/
def menuButton (display : DisplayOptions) (categoryId : String) (menu : Menu) : Node :=
  el "button" [("type", "button"), ("class", "menu-item"), ("data-action", "select-menu"),
      ("data-menu-id", menu.id), ("data-category-id", categoryId), ("data-kind", menu.kind)]
    (menuImage menu ++ [menuContent display menu, menuInfo display menu])

/-- The price of an option as it is shown. -/
def optionPrice (price : Nat) : String :=
  if 0 < price then "+" ++ yen price else "無料"

/-- The button of an option. -/
def optionButton (display : DisplayOptions) (menuId : String) (o : MenuOption) : Node :=
  el "button" [("type", "button"), ("class", "option-item"), ("data-action", "toggle-option"),
      ("data-menu-id", menuId), ("data-option-id", o.id)]
    [el "div" []
        (el "div" [("class", "option-name")]
            (.text o.name ::
              itemIf o.isDefault (el "span" [("class", "option-badge")] ["おすすめ"])) ::
          descriptionNode true o.description),
      el "div" [("class", "option-price")]
        (itemIf display.price (el "div" [] [optionPrice o.price]) ++
          itemIf (display.duration && o.duration != 0)
            (el "div" [("class", "menu-item-duration")] [.text ("+" ++ minutesText o.duration)]))]

/-- The panel of a leaf's options, if it has any. -/
def optionsPanel (display : DisplayOptions) (menu : LeafMenu) : List Node :=
  itemIf (!menu.options.isEmpty)
    (el "div" [("class", "options-container"), ("id", "options-" ++ menu.id),
        ("data-options-for", menu.id), ("hidden", .flag true)]
      (el "div" [("class", "options-title")] ["オプション"] ::
        menu.options.map (optionButton display menu.id)))

/-- The button of a submenu item. -/
def itemButton (display : DisplayOptions) (menuId : String) (item : SubmenuItem) : Node :=
  el "button" [("type", "button"), ("class", "submenu-item"), ("data-action", "select-submenu"),
      ("data-menu-id", menuId), ("data-submenu-id", item.id)]
    [el "div" [("class", "menu-item-content")]
        (el "div" [("class", "menu-item-name")] [item.name] ::
          descriptionNode display.description item.description),
      el "div" [("class", "menu-item-info")]
        (itemIf display.price (el "div" [("class", "menu-item-price")] [yen item.price]) ++
          itemIf display.duration
            (el "div" [("class", "menu-item-duration")] [minutesText item.duration]))]

/-- The panel of a submenu's items. -/
def submenuPanel (display : DisplayOptions) (menu : SubmenuMenu) : Node :=
  el "div" [("class", "submenu-container"), ("id", "submenu-" ++ menu.id),
      ("data-submenus-for", menu.id), ("hidden", .flag true)]
    (el "div" [("class", "submenu-title")] ["サブメニューを選択してください"] ::
      menu.items.map (itemButton display menu.id))

/-- The panel beside the button of a menu. -/
def menuPanel (display : DisplayOptions) : Menu → List Node
  | .leaf m => optionsPanel display m
  | .submenu m => [submenuPanel display m]

/-- A menu: its button and its panel. -/
def menuEntry (display : DisplayOptions) (categoryId : String) (menu : Menu) : Node :=
  el "div" [] (menuButton display categoryId menu :: menuPanel display menu)

/-- A category: its name, if it has one, and its menus. -/
def categoryBlock (display : DisplayOptions) (category : Category) : Node :=
  el "div" [("class", "category"), ("data-category-id", category.id)]
    (itemIf (!category.name.isEmpty) (el "div" [("class", "category-name")] [category.name]) ++
      [el "div" [("class", "menu-list")] (category.menus.map (menuEntry display category.id))])

/-- The block of all menus, if there is a category. -/
def menuField (catalogue : Catalogue) : List Node :=
  itemIf (!catalogue.categories.isEmpty)
    (el "div" [("class", "field"), ("id", "menu-field")]
      (label "メニューをお選びください" true .absent ::
        catalogue.categories.map (categoryBlock catalogue.display)))

end SalonBooking.Page
