import SalonBooking.Proofs.Booking.Totals
import SalonBooking.Proofs.Page.Buttons
import SalonBooking.Proofs.Page.PriceText

/-!
# The price shown is the price charged

The button of a leaf or of an item has a box for its price; in the button of an
option the price is the first thing in a box that it shares with the duration.
What is read there is compared with what the click on the button does to the
totals.

* `shownAmount?_menuButton`, `shownAmount?_optionButton`, `shownAmount?_itemButton`:
  what a button says.
* `price_shown_is_charged`: what it says is what it costs.
-/

namespace SalonBooking

namespace Page

/-! ## What a button says -/

/-- Whether attributes have a class. -/
def hasClass (name : String) (attrs : Assoc String AttrValue) : Bool :=
  textAttr attrs "class" == some name

/-- The text of an element that has nothing else in it. -/
def onlyText? : Node → Option String
  | .element _ _ [.text s] => some s
  | _ => none

@[simp] theorem onlyText?_el (tag : String) (attrs : Assoc String AttrValue) (s : String) :
    onlyText? (el tag attrs [.text s]) = some s := rfl

/-- The element of a button that shows its price: it has its own class, or else it is the first
without attributes in the box of an option's price. -/
def priceElement? (button : Node) : Option Node :=
  (button.find? (hasClass "menu-item-price")).or
    ((button.find? (hasClass "option-price")).bind (Node.find? List.isEmpty))

/-- The amount that the price on a button says. -/
def shownAmount? (button : Node) : Option Nat :=
  ((priceElement? button).bind onlyText?).bind readPrice?

section
variable {display : DisplayOptions} (hshown : display.price = true)

include hshown

theorem priceElement?_menuButton (categoryId : String) (leaf : LeafMenu) :
    priceElement? (menuButton display categoryId (.leaf leaf)) =
      some (el "div" [("class", "menu-item-price")] [yen leaf.price]) := by
  rw [menuButton, menuImage, menuContent, menuInfo, descriptionNode, hshown]
  generalize (!(Menu.leaf leaf).image.isEmpty) = hasImage
  generalize (display.description && !(Menu.leaf leaf).description.isEmpty) = isDescribed
  cases hasImage <;> cases isDescribed <;> rfl

theorem priceElement?_itemButton (menuId : String) (item : SubmenuItem) :
    priceElement? (itemButton display menuId item) =
      some (el "div" [("class", "menu-item-price")] [yen item.price]) := by
  rw [itemButton, descriptionNode, hshown]
  generalize (display.description && !item.description.isEmpty) = isDescribed
  cases isDescribed <;> rfl

theorem priceElement?_optionButton (menuId : String) (o : MenuOption) :
    priceElement? (optionButton display menuId o) = some (el "div" [] [optionPrice o.price]) := by
  rw [optionButton, descriptionNode, hshown]
  generalize (true && !o.description.isEmpty) = isDescribed
  generalize (display.duration && o.duration != 0) = takesTime
  cases o.isDefault <;> cases isDescribed <;> cases takesTime <;> rfl

/-- The button of a leaf says what the leaf costs by itself. -/
theorem shownAmount?_menuButton (categoryId : String) (leaf : LeafMenu) :
    shownAmount? (menuButton display categoryId (.leaf leaf)) = some leaf.price := by
  rw [shownAmount?, priceElement?_menuButton hshown, Option.bind_some, onlyText?_el,
    Option.bind_some, readPrice?_yen]

theorem shownAmount?_itemButton (menuId : String) (item : SubmenuItem) :
    shownAmount? (itemButton display menuId item) = some item.price := by
  rw [shownAmount?, priceElement?_itemButton hshown, Option.bind_some, onlyText?_el,
    Option.bind_some, readPrice?_yen]

theorem shownAmount?_optionButton (menuId : String) (o : MenuOption) :
    shownAmount? (optionButton display menuId o) = some o.price := by
  rw [shownAmount?, priceElement?_optionButton hshown, Option.bind_some, onlyText?_el,
    Option.bind_some, readPrice?_optionPrice]

end

end Page

/-- If prices are shown, the price on a button is what its click adds to the total.  It is added by
the click that selects a leaf beside the selected ones, first of all by the first click; by the
click that switches an option of a selected leaf on; and by the click that chooses an item of a
selected submenu which still waits for one. -/
theorem price_shown_is_charged {limits : Limits} {source : Source} {config : FormConfig}
    (hconfig : normalize limits source = .ok config)
    (hshown : config.catalogue.display.price = true) :
    (∀ category leaf, config.catalogue.findMenu? leaf.id = some (category, .leaf leaf) →
      ∃ amount,
        (Page.menuControl? leaf.id (Page.tree config)).bind Page.shownAmount? = some amount ∧
        (config.catalogue.totals (config.catalogue.clicks .empty [.menu leaf.id])).price = amount ∧
        ∀ cs, let sel := config.catalogue.clicks .empty cs
          let next := (config.catalogue.click sel (.menu leaf.id)).2
          next.menuIds = sel.menuIds ++ [leaf.id] →
            (config.catalogue.totals next).price = (config.catalogue.totals sel).price + amount) ∧
    (∀ category leaf o, config.catalogue.findMenu? leaf.id = some (category, .leaf leaf) →
      leaf.findOption? o.id = some o →
      ∃ amount,
        (Page.optionControl? leaf.id o.id (Page.tree config)).bind Page.shownAmount? =
          some amount ∧
        ∀ cs named, let sel := config.catalogue.clicks .empty cs
          let next := (config.catalogue.click sel (.option o.id named)).2
          sel.Means (config.catalogue.hasOption o.id) named leaf.id →
          o.id ∉ sel.optionsOf leaf.id →
            next.optionsOf leaf.id = sel.optionsOf leaf.id ++ [o.id] ∧
            (config.catalogue.totals next).price = (config.catalogue.totals sel).price + amount) ∧
    ∀ category submenu item,
      config.catalogue.findMenu? submenu.id = some (category, .submenu submenu) →
      submenu.findItem? item.id = some item →
      ∃ amount,
        (Page.itemControl? submenu.id item.id (Page.tree config)).bind Page.shownAmount? =
          some amount ∧
        ∀ cs named, let sel := config.catalogue.clicks .empty cs
          let next := (config.catalogue.click sel (.submenuItem item.id named)).2
          sel.Means (config.catalogue.hasItem item.id) named submenu.id →
          (Catalogue.pickOf sel category (.submenu submenu)).isResolved = false →
            (Catalogue.pickOf next category (.submenu submenu)).item? = some item ∧
            (config.catalogue.totals next).price =
              (config.catalogue.totals sel).price + amount := by
  have hwell := (wellFormed_of_normalize hconfig).catalogue
  have hconsistent (cs : List Click) :
      (config.catalogue.clicks .empty cs).Consistent config.catalogue :=
    Selection.Consistent.clicks hwell (.empty _) cs
  refine ⟨fun category leaf hfound => ?_, fun category leaf o hfound hoption => ?_,
    fun category submenu item hfound hitem => ?_⟩
  · have hcharged (cs : List Click)
        (hadded :
          (config.catalogue.selectMenu leaf.id (config.catalogue.clicks .empty cs)).menuIds =
          (config.catalogue.clicks .empty cs).menuIds ++ [leaf.id]) :
        (config.catalogue.totals
            (config.catalogue.selectMenu leaf.id (config.catalogue.clicks .empty cs))).price =
          (config.catalogue.totals (config.catalogue.clicks .empty cs)).price + leaf.price := by
      rw [Catalogue.totals_selectMenu hfound (hconsistent cs) hadded, Totals.price_add]
    refine ⟨leaf.price, ?_, ?_, fun cs hadded => hcharged cs hadded⟩
    · rw [Page.menuControl?_tree hfound, Option.bind_some, Page.shownAmount?_menuButton hshown]
    · have hempty : config.catalogue.selectMenu leaf.id .empty = Selection.empty.addMenu leaf.id :=
        @Catalogue.selectMenu_empty config.catalogue category (.leaf leaf) hfound
      exact (hcharged [] (congrArg Selection.menuIds hempty)).trans (Nat.zero_add _)
  · refine ⟨o.price, ?_, fun cs named hmeant hnew => ?_⟩
    · rw [Page.optionControl?_tree hfound hoption, Option.bind_some,
        Page.shownAmount?_optionButton hshown]
    · have hswitched := Catalogue.toggleOption_of_means hfound hoption hmeant hnew
      have hcharged := Catalogue.totals_toggleOption hfound hoption (hconsistent cs) hmeant hnew
      exact ⟨by rw [Catalogue.click, hswitched, Selection.optionsOf_withOptions],
        by rw [Catalogue.click, hcharged, Totals.price_add]⟩
  · have hne : item.id ≠ "" :=
      Selection.Consistent.itemId_ne_empty hwell hfound (by rw [hitem]; rfl)
    refine ⟨item.price, ?_, fun cs named hmeant hopen => ?_⟩
    · rw [Page.itemControl?_tree hfound hitem, Option.bind_some,
        Page.shownAmount?_itemButton hshown]
    · have hchosen := Catalogue.pickOf_selectItem hfound hitem hne hmeant
      have hcharged :=
        Catalogue.totals_selectItem hfound hitem hne (hconsistent cs) hmeant hopen
      exact ⟨by rw [Catalogue.click, hchosen]; rfl,
        by rw [Catalogue.click, hcharged, Totals.price_add]⟩

/-- A salon that shows prices: a leaf with an option that costs nothing and one that does, and a
submenu with an item. -/
def salonWithPrices : Json :=
  .obj [("basic_info", .obj []),
    ("menu_structure", .obj [("categories", .arr [
      .obj [("id", .str "hair"), ("selection_mode", .str "multiple"), ("menus", .arr [
        .obj [("id", .str "cut"), ("price", .int 1234567), ("options", .arr [
          .obj [("id", .str "wash")], .obj [("id", .str "care"), ("price", .int 1500)]])],
        .obj [("id", .str "color"), ("has_submenu", .bool true), ("sub_menu_items", .arr [
          .obj [("id", .str "full"), ("price", .int 8000)]])]])]])])]

/-- Its configuration. -/
def pricesConfig : FormConfig :=
  .ofStored ⟨salonWithPrices, salonWithPrices, .null⟩

/-- The leaf shows what it adds to nothing, its options what they add to the leaf, and the item what
it adds to all of them. -/
theorem price_shown_is_charged_panels :
    normalize .standard (.value salonWithPrices) = .ok pricesConfig ∧
      (Page.menuControl? "cut" (Page.tree pricesConfig)).bind Page.shownAmount? = some 1234567 ∧
      (pricesConfig.catalogue.totals (pricesConfig.catalogue.clicks .empty [.menu "cut"])).price =
        1234567 ∧
      (Page.optionControl? "cut" "wash" (Page.tree pricesConfig)).bind Page.shownAmount? = some 0 ∧
      (Page.optionControl? "cut" "care" (Page.tree pricesConfig)).bind Page.shownAmount? =
        some 1500 ∧
      (pricesConfig.catalogue.totals (pricesConfig.catalogue.clicks .empty
        [.menu "cut", .option "care" none])).price = 1236067 ∧
      (Page.itemControl? "color" "full" (Page.tree pricesConfig)).bind Page.shownAmount? =
        some 8000 ∧
      (pricesConfig.catalogue.totals (pricesConfig.catalogue.clicks .empty
        [.menu "cut", .menu "color", .submenuItem "full" (some "color")])).price = 1242567 := by
  have hconfig : normalize .standard (.value salonWithPrices) = .ok pricesConfig := rfl
  have hshown : pricesConfig.catalogue.display.price = true := by decide +kernel
  have amount_eq {after before amount m n : Nat} (h : after = before + amount)
      (hafter : after = m + n) (hbefore : before = m) : amount = n := by omega
  obtain ⟨hleaf, hoption, hitem⟩ := price_shown_is_charged hconfig hshown
  let wash : MenuOption := ⟨"wash", "", 0, 0, false, ""⟩
  let care : MenuOption := ⟨"care", "", 1500, 0, false, ""⟩
  let cut : LeafMenu := ⟨"cut", "", 1234567, 0, [wash, care], "", ""⟩
  let full : SubmenuItem := ⟨"full", "", 8000, 0, "", ""⟩
  let color : SubmenuMenu := ⟨"color", "", [full], "", ""⟩
  let hair : Category := ⟨"hair", "", [.leaf cut, .submenu color], .multiple⟩
  have hcut : pricesConfig.catalogue.findMenu? cut.id = some (hair, .leaf cut) := by decide +kernel
  have hcolor : pricesConfig.catalogue.findMenu? color.id = some (hair, .submenu color) := by
    decide +kernel
  obtain ⟨cutPrice, hcutShown, hcutCharged, -⟩ := hleaf hair cut hcut
  obtain ⟨washPrice, hwashShown, hwash⟩ := hoption hair cut wash hcut rfl
  obtain ⟨carePrice, hcareShown, hcare⟩ := hoption hair cut care hcut rfl
  obtain ⟨fullPrice, hfullShown, hfull⟩ := hitem hair color full hcolor rfl
  have hwashCharged := (hwash [.menu "cut"] none
    ⟨by decide +kernel, Or.inr ⟨rfl, by decide +kernel⟩⟩
    (by decide +kernel)).2
  have hcareCharged := (hcare [.menu "cut"] none
    ⟨by decide +kernel, Or.inr ⟨rfl, by decide +kernel⟩⟩
    (by decide +kernel)).2
  have hfullCharged := (hfull [.menu "cut", .menu "color"] (some "color")
    ⟨by decide +kernel, Or.inl rfl⟩ (by decide +kernel)).2
  have hcutTotal : (pricesConfig.catalogue.totals
      (pricesConfig.catalogue.clicks .empty [.menu "cut"])).price = 1234567 := by decide +kernel
  have hbothTotal : (pricesConfig.catalogue.totals
      (pricesConfig.catalogue.clicks .empty [.menu "cut", .menu "color"])).price = 1234567 := by
    decide +kernel
  have hwashTotal : (pricesConfig.catalogue.totals (pricesConfig.catalogue.clicks .empty
      [.menu "cut", .option "wash" none])).price = 1234567 := by decide +kernel
  have hcareTotal : (pricesConfig.catalogue.totals (pricesConfig.catalogue.clicks .empty
      [.menu "cut", .option "care" none])).price = 1236067 := by decide +kernel
  have hfullTotal : (pricesConfig.catalogue.totals (pricesConfig.catalogue.clicks .empty
      [.menu "cut", .menu "color", .submenuItem "full" (some "color")])).price = 1242567 := by
    decide +kernel
  obtain rfl : cutPrice = 1234567 := hcutCharged.symm.trans hcutTotal
  obtain rfl : washPrice = 0 := amount_eq hwashCharged hwashTotal hcutTotal
  obtain rfl : carePrice = 1500 := amount_eq hcareCharged hcareTotal hcutTotal
  obtain rfl : fullPrice = 8000 := amount_eq hfullCharged hfullTotal hbothTotal
  exact ⟨hconfig, hcutShown, hcutTotal, hwashShown, hcareShown, hcareTotal, hfullShown, hfullTotal⟩

end SalonBooking
