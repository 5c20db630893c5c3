import SalonBooking.Json.Basic

/-!
# The catalogue of menus

What a salon offers: categories of menus.  A menu is a leaf, which has its own
price and duration and may have options on top, or it opens a submenu, whose
items each have a price and duration of their own.

A category takes one menu at a time or several; a catalogue may also let
menus of different categories be booked together.
-/

namespace SalonBooking

/-- Something added to a leaf menu, at a price and duration on top of the menu's. -/
structure MenuOption where
  id : String
  name : String
  price : Nat
  duration : Nat
  isDefault : Bool
  description : String
  deriving DecidableEq, Repr

/-- One item of a submenu. -/
structure SubmenuItem where
  id : String
  name : String
  price : Nat
  duration : Nat
  description : String
  image : String
  deriving DecidableEq, Repr

/-- A menu that is booked by itself, with options. -/
structure LeafMenu where
  id : String
  name : String
  price : Nat
  duration : Nat
  options : List MenuOption
  description : String
  image : String
  deriving DecidableEq, Repr

/-- A menu of which one item is booked; it has no price of its own. -/
structure SubmenuMenu where
  id : String
  name : String
  items : List SubmenuItem
  description : String
  image : String
  deriving DecidableEq, Repr

/-- A menu. -/
inductive Menu where
  | leaf (menu : LeafMenu)
  | submenu (menu : SubmenuMenu)
  deriving DecidableEq, Repr

/-- How many menus of a category can be booked together. -/
inductive SelectionMode where
  | single
  | multiple
  deriving DecidableEq, Repr

/-- A group of menus. -/
structure Category where
  id : String
  name : String
  menus : List Menu
  mode : SelectionMode
  deriving DecidableEq, Repr

/-- Which details of a menu the page shows. -/
structure DisplayOptions where
  price : Bool
  duration : Bool
  description : Bool
  /-- Only the editor's preview looks at this one. -/
  treatmentInfo : Bool
  deriving DecidableEq, Repr

/-- All menus of a form. -/
structure Catalogue where
  categories : List Category
  display : DisplayOptions
  structureType : String
  /-- Whether menus of different categories can be booked together. -/
  crossCategory : Bool
  deriving DecidableEq, Repr

namespace LeafMenu

/-- The first option with an id. -/
def findOption? (menu : LeafMenu) (id : String) : Option MenuOption :=
  menu.options.find? (·.id == id)

end LeafMenu

namespace SubmenuMenu

/-- The first item with an id. -/
def findItem? (menu : SubmenuMenu) (id : String) : Option SubmenuItem :=
  menu.items.find? (·.id == id)

end SubmenuMenu

namespace Menu

/-- The id of a menu. -/
def id : Menu → String
  | .leaf m => m.id
  | .submenu m => m.id

/-- The name of a menu. -/
def name : Menu → String
  | .leaf m => m.name
  | .submenu m => m.name

/-- The description of a menu. -/
def description : Menu → String
  | .leaf m => m.description
  | .submenu m => m.description

/-- The address of a menu's image, empty if it has none. -/
def image : Menu → String
  | .leaf m => m.image
  | .submenu m => m.image

/-- The word for the kind of a menu. -/
def kind : Menu → String
  | .leaf _ => "leaf"
  | .submenu _ => "submenu"

/-- Whether a menu opens a submenu. -/
def hasSubmenu : Menu → Bool
  | .leaf _ => false
  | .submenu _ => true

end Menu

namespace SelectionMode

/-- The word for a mode. -/
def name : SelectionMode → String
  | .single => "single"
  | .multiple => "multiple"

end SelectionMode

namespace Category

/-- Whether several menus of the category can be booked together. -/
def allowsMultiple (category : Category) : Bool :=
  category.mode == .multiple

end Category

namespace Catalogue

/-- Whether a click on a menu of a category adds to the selection instead of replacing it. -/
def isAdditive (catalogue : Catalogue) (category : Category) : Bool :=
  catalogue.crossCategory || category.allowsMultiple

/-- The first menu with an id, with its category. -/
def findMenu? (catalogue : Catalogue) (id : String) : Option (Category × Menu) :=
  catalogue.categories.findSome? fun category =>
    (category.menus.find? (·.id == id)).map fun menu => (category, menu)

end Catalogue

/-! ## As stored -/

/-- An option as it is stored. -/
def MenuOption.toJson (o : MenuOption) : Json :=
  .obj [("id", .str o.id), ("name", .str o.name), ("price", .int o.price),
    ("duration", .int o.duration), ("is_default", .bool o.isDefault),
    ("description", .str o.description)]

/-- An item of a submenu as it is stored. -/
def SubmenuItem.toJson (s : SubmenuItem) : Json :=
  .obj [("id", .str s.id), ("name", .str s.name), ("price", .int s.price),
    ("duration", .int s.duration), ("description", .str s.description), ("image", .str s.image)]

/-- A menu as it is stored. -/
def Menu.toJson : Menu → Json
  | .leaf m =>
    .obj [("id", .str m.id), ("kind", .str "leaf"), ("name", .str m.name),
      ("description", .str m.description), ("image", .str m.image), ("has_submenu", .bool false),
      ("price", .int m.price), ("duration", .int m.duration),
      ("options", .arr (m.options.map MenuOption.toJson))]
  | .submenu m =>
    .obj [("id", .str m.id), ("kind", .str "submenu"), ("name", .str m.name),
      ("description", .str m.description), ("image", .str m.image), ("has_submenu", .bool true),
      ("sub_menu_items", .arr (m.items.map SubmenuItem.toJson))]

/-- A category as it is stored. -/
def Category.toJson (c : Category) : Json :=
  .obj [("id", .str c.id), ("name", .str c.name), ("selection_mode", .str c.mode.name),
    ("menus", .arr (c.menus.map Menu.toJson))]

/-- The display options as they are stored. -/
def DisplayOptions.toJson (d : DisplayOptions) : Json :=
  .obj [("show_price", .bool d.price), ("show_duration", .bool d.duration),
    ("show_description", .bool d.description), ("show_treatment_info", .bool d.treatmentInfo)]

/-- A catalogue as it is stored. -/
def Catalogue.toJson (c : Catalogue) : Json :=
  .obj [("structure_type", .str c.structureType),
    ("allow_cross_category_selection", .bool c.crossCategory),
    ("categories", .arr (c.categories.map Category.toJson)),
    ("display_options", c.display.toJson)]

end SalonBooking
