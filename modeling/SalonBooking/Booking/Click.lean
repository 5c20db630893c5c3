import SalonBooking.Booking.Pick

/-!
# Clicks

How a selection changes as the customer clicks.

In a category of which one menu is taken, a click on a menu replaces the whole
selection of menus, and a click on the only selected one takes it back.  In an
additive category it adds or removes that menu; unless categories may be
crossed, selected menus of other categories are dropped.  Any change of menus
clears the dates.  A submenu item or an option belongs to the menu that is
named with it, or else to the latest selected menu that has it.  A date is
accepted only when nothing more has to be chosen.
-/

namespace SalonBooking

/-- Something that a customer clicks. -/
inductive Click where
  | menu (id : String)
  | submenuItem (id : String) (menuId : Option String)
  | option (id : String) (menuId : Option String)
  | dateTime (date time : String)
  deriving DecidableEq, Repr

/-- What a click answers: the phase that it leads to, or whether something is now selected. -/
inductive ClickReply where
  | phase (p : Phase)
  | selected (b : Bool)
  deriving DecidableEq, Repr

namespace Selection

/-- The selection without any date. -/
def clearDates (sel : Selection) : Selection :=
  { sel with desired := .empty, alternates := [] }

/-- The selection without any menu. -/
def clearMenus (sel : Selection) : Selection :=
  { sel with menuIds := [], submenuIds := [], selectedOptions := [] }

/-- The selection without one menu and what was chosen under it. -/
def dropMenu (sel : Selection) (menuId : String) : Selection :=
  { sel with
    menuIds := sel.menuIds.filter (· ≠ menuId)
    submenuIds := sel.submenuIds.erase menuId
    selectedOptions := sel.selectedOptions.erase menuId }

/-- The selection with one more menu. -/
def addMenu (sel : Selection) (menuId : String) : Selection :=
  { sel with menuIds := sel.menuIds ++ [menuId] }

/-- The menus that a click on an item or an option may mean, the latest selected first. -/
def candidates (sel : Selection) : Option String → List String
  | some menuId => if sel.menuIds.contains menuId then [menuId] else []
  | none => sel.menuIds.reverse

/-- Whether an option is selected under one of the menus that may be meant. -/
def isOptionSelected (sel : Selection) (optionId : String) (menuId : Option String) : Bool :=
  (sel.candidates menuId).any fun id => (sel.optionsOf id).contains optionId

end Selection

namespace Catalogue

/-- Whether a menu's id leads to a category with a given id. -/
def isInCategory (catalogue : Catalogue) (categoryId menuId : String) : Bool :=
  match catalogue.findMenu? menuId with
  | some (category, _) => category.id == categoryId
  | none => false

/-- Whether a menu's id leads to a submenu with an item. -/
def hasItem (catalogue : Catalogue) (itemId menuId : String) : Bool :=
  match catalogue.findMenu? menuId with
  | some (_, .submenu m) => (m.findItem? itemId).isSome
  | _ => false

/-- Whether a menu's id leads to a leaf with an option. -/
def hasOption (catalogue : Catalogue) (optionId menuId : String) : Bool :=
  match catalogue.findMenu? menuId with
  | some (_, .leaf m) => (m.findOption? optionId).isSome
  | _ => false

/-- The selection without the menus that lead to another category than a given one. -/
def dropOtherCategories (catalogue : Catalogue) (categoryId : String) (sel : Selection) :
    Selection :=
  (sel.menuIds.filter fun id => !catalogue.isInCategory categoryId id).foldl
    Selection.dropMenu sel

/-- A click on a menu of a category. -/
def toggleMenu (catalogue : Catalogue) (category : Category) (menuId : String)
    (sel : Selection) : Selection :=
  if !catalogue.isAdditive category then
    if sel.menuIds = [menuId] then sel.clearMenus else sel.clearMenus.addMenu menuId
  else if sel.menuIds.contains menuId then sel.dropMenu menuId
  else if catalogue.crossCategory then sel.addMenu menuId
  else (catalogue.dropOtherCategories category.id sel).addMenu menuId

/-- A click on a menu: nothing happens if the catalogue does not have it. -/
def selectMenu (catalogue : Catalogue) (menuId : String) (sel : Selection) : Selection :=
  match catalogue.findMenu? menuId with
  | some (category, _) => catalogue.toggleMenu category menuId sel.clearDates
  | none => sel

/-- A click on a submenu item: it becomes the chosen one of the first fitting menu. -/
def selectItem (catalogue : Catalogue) (itemId : String) (menuId : Option String)
    (sel : Selection) : Selection :=
  match (sel.candidates menuId).find? (catalogue.hasItem itemId) with
  | some id => { sel with submenuIds := Assoc.set id itemId sel.submenuIds }
  | none => sel

/-- The options with one flipped, and whether it is now among them. -/
def flipOption (optionId : String) (options : List String) : Bool × List String :=
  if options.contains optionId then (false, options.filter (· ≠ optionId))
  else (true, options ++ [optionId])

/-- A click on an option: it is flipped under the first fitting menu. -/
def toggleOption (catalogue : Catalogue) (optionId : String) (menuId : Option String)
    (sel : Selection) : Bool × Selection :=
  match (sel.candidates menuId).find? (catalogue.hasOption optionId) with
  | some id =>
    let (selected, options) := flipOption optionId (sel.optionsOf id)
    (selected, { sel with selectedOptions := Assoc.set id options sel.selectedOptions })
  | none => (false, sel)

/-- A click on a slot: accepted when nothing more has to be chosen. -/
def selectDateTime (catalogue : Catalogue) (date time : String) (sel : Selection) :
    Bool × Selection :=
  if (catalogue.phase sel).isTerminal then (true, { sel with desired := ⟨date, time⟩ })
  else (false, sel)

/-- What a click answers, and the selection after it. -/
def click (catalogue : Catalogue) (sel : Selection) : Click → ClickReply × Selection
  | .menu id =>
    let next := catalogue.selectMenu id sel
    (.phase (catalogue.phase next), next)
  | .submenuItem id menuId =>
    let next := catalogue.selectItem id menuId sel
    (.phase (catalogue.phase next), next)
  | .option id menuId =>
    let (selected, next) := catalogue.toggleOption id menuId sel
    (.selected selected, next)
  | .dateTime date time =>
    let (accepted, next) := catalogue.selectDateTime date time sel
    (.selected accepted, next)

/-- The selection after some clicks. -/
def clicks (catalogue : Catalogue) (sel : Selection) (cs : List Click) : Selection :=
  cs.foldl (fun s c => (catalogue.click s c).2) sel

end Catalogue

end SalonBooking
