import SalonBooking.Booking.Selection
import SalonBooking.Form.Config

/-!
# The chosen menus

A pick is a chosen menu with what was chosen under it, looked up in the
catalogue; ids that the catalogue does not know are ignored.  The phase says
how far the choice of menus has come, and the totals add up price and duration:
a leaf counts with its options, a submenu only by the chosen item.
-/

namespace SalonBooking

/-- A chosen menu with what was chosen under it. -/
inductive PickedMenu where
  | leaf (menu : LeafMenu) (options : List MenuOption)
  | submenu (menu : SubmenuMenu) (item : Option SubmenuItem)
  deriving DecidableEq, Repr

/-- A chosen menu and its category. -/
structure Pick where
  category : Category
  chosen : PickedMenu
  deriving DecidableEq, Repr

/-- A price and a duration in minutes. -/
structure Totals where
  price : Nat
  duration : Nat
  deriving DecidableEq, Repr

/-- How far the choice of menus has come. -/
inductive Phase where
  /-- No menu is chosen. -/
  | none
  /-- Leaf menus are chosen. -/
  | leaf
  /-- A chosen submenu waits for one of its items. -/
  | awaitingSubmenu
  /-- Every chosen submenu has its item, and there is one. -/
  | submenu
  deriving DecidableEq, Repr

namespace Totals

/-- Nothing to pay and no time. -/
def zero : Totals := ⟨0, 0⟩

/-- Prices and durations added up. -/
def add (a b : Totals) : Totals := ⟨a.price + b.price, a.duration + b.duration⟩

instance : Add Totals := ⟨add⟩

/-- The sum of a list of totals. -/
def sum (ts : List Totals) : Totals := ts.foldr (· + ·) zero

end Totals

namespace Pick

/-- The menu that was chosen. -/
def menu (p : Pick) : Menu :=
  match p.chosen with
  | .leaf m _ => .leaf m
  | .submenu m _ => .submenu m

/-- The item chosen under a submenu. -/
def item? (p : Pick) : Option SubmenuItem :=
  match p.chosen with
  | .leaf _ _ => Option.none
  | .submenu _ item => item

/-- The options chosen under a leaf. -/
def options (p : Pick) : List MenuOption :=
  match p.chosen with
  | .leaf _ options => options
  | .submenu _ _ => []

/-- Whether nothing more has to be chosen under the menu. -/
def isResolved (p : Pick) : Bool :=
  match p.chosen with
  | .leaf _ _ => true
  | .submenu _ item => item.isSome

/-- What the pick costs and how long it takes. -/
def totals (p : Pick) : Totals :=
  match p.chosen with
  | .leaf m options =>
    ⟨m.price, m.duration⟩ + Totals.sum (options.map fun o => ⟨o.price, o.duration⟩)
  | .submenu _ (some item) => ⟨item.price, item.duration⟩
  | .submenu _ Option.none => .zero

end Pick

namespace Phase

/-- The word for a phase. -/
def name : Phase → String
  | .none => "none"
  | .leaf => "leaf"
  | .awaitingSubmenu => "awaiting-submenu"
  | .submenu => "submenu"

/-- Whether a date and time can be chosen. -/
def isTerminal : Phase → Bool
  | .none => false
  | .leaf => true
  | .awaitingSubmenu => false
  | .submenu => true

/-- The phase of some picks. -/
def ofPicks (picks : List Pick) : Phase :=
  if picks.isEmpty then .none
  else if !picks.all Pick.isResolved then .awaitingSubmenu
  else if picks.any fun p => p.item?.isSome then .submenu
  else .leaf

end Phase

namespace Catalogue

/-- The pick that a selection makes under a menu. -/
def pickOf (sel : Selection) (category : Category) : Menu → Pick
  | .leaf m => ⟨category, .leaf m ((sel.optionsOf m.id).filterMap m.findOption?)⟩
  | .submenu m => ⟨category, .submenu m ((sel.submenuIds.get? m.id).bind fun id =>
      if id.isEmpty then Option.none else m.findItem? id)⟩

/-- The pick of a menu's id, if the catalogue has the menu. -/
def pick? (catalogue : Catalogue) (sel : Selection) (menuId : String) : Option Pick :=
  (catalogue.findMenu? menuId).map fun (category, menu) => pickOf sel category menu

/-- The picks of a selection, in the order of choosing. -/
def picks (catalogue : Catalogue) (sel : Selection) : List Pick :=
  sel.menuIds.filterMap (catalogue.pick? sel)

/-- How far the choice of menus has come. -/
def phase (catalogue : Catalogue) (sel : Selection) : Phase :=
  .ofPicks (catalogue.picks sel)

/-- What all chosen menus cost and how long they take. -/
def totals (catalogue : Catalogue) (sel : Selection) : Totals :=
  .sum ((catalogue.picks sel).map Pick.totals)

end Catalogue

end SalonBooking
