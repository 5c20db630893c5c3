import Mathlib.Data.List.Basic
import SalonBooking.Booking.Message
import SalonBooking.Form.Normalize
import SalonBooking.Proofs.Booking.Phase

/-!
# What the form does not show does not matter

A selection can hold answers to blocks that are off, further wishes in a form
that asks for one, and ids that no menu of the form has: from an older page, or
from a request that the page never made.  Each of them is passed over at a place
of its own, and none reaches the price, the check or the message.

* `Selection.ShowsSame`: two selections differ only in what the form does not
  show.
* `Selection.ShowsSame.picks`: then they pick the same menus, from which phase,
  totals and the line of the menus are made.
* `unshown_irrelevant`: and nothing tells them apart.
-/

namespace SalonBooking

/-- A map over a list that leaves items out sees nothing of these items. -/
theorem filterMap_filter_isSome {α β : Type} (f : α → Option β) (items : List α) :
    (items.filter fun a => (f a).isSome).filterMap f = items.filterMap f := by
  rw [List.filterMap_filter]
  refine List.filterMap_congr fun a _ => ?_
  cases f a <;> rfl

/-- Two selections hold the same of everything that the form shows: of blocks that are on, of
complete further wishes where there can be any, of the form's own questions, of menus that it has,
and of the items and options of these menus. -/
structure Selection.ShowsSame (config : FormConfig) (sel sel' : Selection) : Prop where
  name : sel.name = sel'.name
  phone : sel.phone = sel'.phone
  message : sel.message = sel'.message
  desired : sel.desired = sel'.desired
  gender : config.gender.enabled = true → sel.gender = sel'.gender
  visitCount : config.visitCount.enabled = true → sel.visitCount = sel'.visitCount
  coupon : config.coupon.enabled = true → sel.coupon = sel'.coupon
  alternates : config.isMultipleDates = true →
    sel.alternates.filter DesiredTime.isComplete = sel'.alternates.filter DesiredTime.isComplete
  answers : ∀ field ∈ config.customFields,
    sel.customFields.get? field.id = sel'.customFields.get? field.id
  menuIds : (sel.menuIds.filter fun id => (config.catalogue.findMenu? id).isSome) =
    sel'.menuIds.filter fun id => (config.catalogue.findMenu? id).isSome
  items : ∀ menuId ∈ sel.menuIds, ∀ itemId, config.catalogue.hasItem itemId menuId = true →
    (sel.submenuIds.get? menuId = some itemId ↔ sel'.submenuIds.get? menuId = some itemId)
  options : ∀ menuId ∈ sel.menuIds,
    ((sel.optionsOf menuId).filter fun id => config.catalogue.hasOption id menuId) =
      (sel'.optionsOf menuId).filter fun id => config.catalogue.hasOption id menuId

/-! ## Blocks -/

namespace ChoiceBlock

variable {block : ChoiceBlock} {value value' : String}

/-- A block that is off has no label for any answer. -/
theorem answerLabel_congr (h : block.enabled = true → value = value') :
    block.answerLabel value = block.answerLabel value' := by
  cases henabled : block.enabled with
  | false => simp [answerLabel, henabled]
  | true => rw [h henabled]

/-- A block that is off lacks no answer. -/
theorem lacks_congr (h : block.enabled = true → value = value') :
    block.lacks value = block.lacks value' := by
  cases henabled : block.enabled with
  | false => simp [lacks, henabled]
  | true => rw [h henabled]

end ChoiceBlock

/-! ## Picks -/

namespace Catalogue

variable {catalogue : Catalogue} {sel sel' : Selection} {category : Category}

/-- The options that a leaf does not have are not looked at. -/
theorem pickOf_leaf_congr {menu : LeafMenu}
    (h : ((sel.optionsOf menu.id).filter fun id => (menu.findOption? id).isSome) =
      (sel'.optionsOf menu.id).filter fun id => (menu.findOption? id).isSome) :
    pickOf sel category (.leaf menu) = pickOf sel' category (.leaf menu) := by
  have hoptions : (sel.optionsOf menu.id).filterMap menu.findOption? =
      (sel'.optionsOf menu.id).filterMap menu.findOption? := by
    rw [← filterMap_filter_isSome, h, filterMap_filter_isSome]
  rw [pickOf, pickOf, hoptions]

/-- An item that a submenu does not have is not looked at. -/
theorem pickOf_submenu_congr {menu : SubmenuMenu}
    (h : ∀ itemId, (menu.findItem? itemId).isSome = true →
      (sel.submenuIds.get? menu.id = some itemId ↔ sel'.submenuIds.get? menu.id = some itemId)) :
    pickOf sel category (.submenu menu) = pickOf sel' category (.submenu menu) := by
  have hitem : ((sel.submenuIds.get? menu.id).bind fun id =>
        if id.isEmpty then none else menu.findItem? id) =
      (sel'.submenuIds.get? menu.id).bind fun id =>
        if id.isEmpty then none else menu.findItem? id := by
    refine Option.ext fun item => ?_
    simp only [Option.bind_eq_some_iff]
    refine exists_congr fun itemId => and_congr_left fun hfound => h itemId ?_
    split at hfound
    · cases hfound
    · rw [hfound]
      rfl
  rw [pickOf, pickOf, hitem]

/-- The ids that no menu has are not looked at. -/
theorem picks_eq_filterMap_known (catalogue : Catalogue) (sel : Selection) :
    catalogue.picks sel =
      (sel.menuIds.filter fun id => (catalogue.findMenu? id).isSome).filterMap
        (catalogue.pick? sel) := by
  have hknown : (fun id => (catalogue.findMenu? id).isSome) =
      fun id => (catalogue.pick? sel id).isSome :=
    funext fun id => Option.isSome_map.symm
  rw [hknown, filterMap_filter_isSome, picks]

end Catalogue

namespace Selection.ShowsSame

variable {config : FormConfig} {sel sel' : Selection}

theorem pickOf (h : sel.ShowsSame config sel') {id : String} (hid : id ∈ sel.menuIds)
    {category : Category} {menu : Menu}
    (hfound : config.catalogue.findMenu? id = some (category, menu)) :
    Catalogue.pickOf sel category menu = Catalogue.pickOf sel' category menu := by
  have hmenuId := Catalogue.findMenu?_id hfound
  cases menu with
  | leaf menu =>
    obtain rfl : menu.id = id := hmenuId
    refine Catalogue.pickOf_leaf_congr ?_
    have hoptions := h.options menu.id hid
    simpa [Catalogue.hasOption, hfound] using hoptions
  | submenu menu =>
    obtain rfl : menu.id = id := hmenuId
    refine Catalogue.pickOf_submenu_congr fun itemId hitem => h.items menu.id hid itemId ?_
    exact Catalogue.hasItem_iff.mpr ⟨category, menu, hfound, hitem⟩

/-- The same menus are picked. -/
theorem picks (h : sel.ShowsSame config sel') :
    config.catalogue.picks sel = config.catalogue.picks sel' := by
  rw [Catalogue.picks_eq_filterMap_known, Catalogue.picks_eq_filterMap_known, ← h.menuIds]
  refine List.filterMap_congr fun id hid => ?_
  rw [List.mem_filter] at hid
  obtain ⟨⟨category, menu⟩, hfound⟩ := Option.isSome_iff_exists.mp hid.2
  rw [Catalogue.pick?, Catalogue.pick?, hfound]
  exact congrArg some (h.pickOf hid.1 hfound)

theorem phase (h : sel.ShowsSame config sel') :
    config.catalogue.phase sel = config.catalogue.phase sel' := by
  rw [Catalogue.phase, Catalogue.phase, h.picks]

/-! ## Check and message -/

theorem answer (h : sel.ShowsSame config sel') {field : CustomField}
    (hfield : field ∈ config.customFields) : sel.answer field.id = sel'.answer field.id := by
  rw [Selection.answer, Selection.answer, h.answers field hfield]

theorem missing (h : sel.ShowsSame config sel') : config.missing sel = config.missing sel' := by
  have hanswers : config.customFields.filter (·.lacks sel) =
      config.customFields.filter (·.lacks sel') :=
    List.filter_congr fun field hfield => by
      rw [CustomField.lacks, CustomField.lacks, h.answer hfield]
  rw [FormConfig.missing, FormConfig.missing, h.name, h.phone, ChoiceBlock.lacks_congr h.gender,
    ChoiceBlock.lacks_congr h.visitCount, h.phase, h.desired, hanswers]

theorem visitText (h : sel.ShowsSame config sel') :
    config.visitText sel = config.visitText sel' := by
  cases henabled : config.visitCount.enabled with
  | false => simp [FormConfig.visitText, henabled]
  | true => rw [FormConfig.visitText, FormConfig.visitText, h.visitCount henabled]

theorem wishes (h : sel.ShowsSame config sel') : config.wishes sel = config.wishes sel' := by
  rw [FormConfig.wishes, FormConfig.wishes, h.desired]
  split
  · rename_i hmultiple
    rw [h.alternates hmultiple]
  · rfl

theorem answerLines (h : sel.ShowsSame config sel') :
    config.answerLines sel = config.answerLines sel' := by
  refine List.filterMap_congr fun field hfield => ?_
  rw [h.answer hfield]

theorem messageLines (h : sel.ShowsSame config sel') :
    config.messageLines sel = config.messageLines sel' := by
  rw [FormConfig.messageLines, FormConfig.messageLines, h.name, h.phone, h.visitText,
    Catalogue.menuLine, Catalogue.menuLine, h.picks, h.wishes, h.message, h.answerLines,
    ChoiceBlock.answerLabel_congr h.gender, ChoiceBlock.answerLabel_congr h.coupon]

end Selection.ShowsSame

/-- Of two selections that differ only in what the form does not show, phase, totals, what is
missing and the message are the same. -/
theorem unshown_irrelevant {config : FormConfig} {sel sel' : Selection}
    (h : sel.ShowsSame config sel') :
    config.catalogue.phase sel = config.catalogue.phase sel' ∧
      config.catalogue.totals sel = config.catalogue.totals sel' ∧
      config.missing sel = config.missing sel' ∧ config.message sel = config.message sel' := by
  refine ⟨h.phase, ?_, h.missing, ?_⟩
  · rw [Catalogue.totals, Catalogue.totals, h.picks]
  · rw [FormConfig.message, FormConfig.message, h.messageLines]

/-- A form without blocks, with a leaf, a submenu and a question. -/
def salonWithQuestion : Json :=
  .obj [("basic_info", .obj []),
    ("menu_structure", .obj [("categories", .arr [
      .obj [("id", .str "hair"), ("selection_mode", .str "multiple"), ("menus", .arr [
        .obj [("id", .str "cut"), ("price", .int 4000),
          ("options", .arr [.obj [("id", .str "wash"), ("price", .int 500)]])],
        .obj [("id", .str "color"), ("has_submenu", .bool true),
          ("sub_menu_items", .arr [.obj [("id", .str "full"), ("price", .int 7000)]])]])]])]),
    ("custom_fields", .arr [
      .obj [("id", .str "length"), ("type", .str "text"), ("required", .bool true)]])]

/-- Its configuration. -/
def questionConfig : FormConfig :=
  .ofStored ⟨salonWithQuestion, salonWithQuestion, .null⟩

/-- A selection of both menus. -/
def freshSelection : Selection :=
  { Selection.empty with
    name := "山田"
    phone := "090"
    customFields := [("length", .str "短い")]
    menuIds := ["cut", "color"]
    submenuIds := [("color", "full")]
    selectedOptions := [("cut", ["wash"])]
    desired := ⟨"2024-05-01", "10:00"⟩ }

/-- The same selection with answers that the form does not ask for, and with ids of menus, items and
options that are gone. -/
def staleSelection : Selection :=
  { freshSelection with
    gender := "male"
    visitCount := "first"
    coupon := "use"
    customFields := [("shampoo", .str "はい"), ("length", .str "短い")]
    menuIds := ["perm", "cut", "color"]
    submenuIds := [("perm", "full"), ("cut", "full"), ("color", "full")]
    selectedOptions := [("color", ["wash"]), ("cut", ["dry", "wash"])]
    alternates := [⟨"2024-05-02", "11:00"⟩] }

/-- What is gone does not cost anything and is not sent. -/
theorem unshown_irrelevant_staleSelection :
    normalize .standard (.value salonWithQuestion) = .ok questionConfig ∧
      freshSelection.ShowsSame questionConfig staleSelection ∧
      questionConfig.catalogue.totals staleSelection = ⟨11500, 0⟩ ∧
      questionConfig.missing staleSelection = [] ∧
      questionConfig.message staleSelection = questionConfig.message freshSelection := by
  have hquestion : ∀ field ∈ questionConfig.customFields, field.id = "length" := by decide +kernel
  have hsame : freshSelection.ShowsSame questionConfig staleSelection :=
    { name := rfl
      phone := rfl
      message := rfl
      desired := rfl
      gender := fun henabled => absurd henabled (by decide +kernel)
      visitCount := fun henabled => absurd henabled (by decide +kernel)
      coupon := fun henabled => absurd henabled (by decide +kernel)
      alternates := fun hmultiple => absurd hmultiple (by decide +kernel)
      answers := fun field hfield => by
        rw [hquestion field hfield]
        rfl
      menuIds := by decide +kernel
      items := by
        rw [freshSelection, List.forall_mem_cons, List.forall_mem_singleton]
        -- The first menu is a leaf, and has no items.
        exact ⟨fun _ hitem => absurd hitem Bool.false_ne_true, fun _ _ => Iff.rfl⟩
      options := by decide +kernel }
  obtain ⟨-, htotals, hmissing, hmessage⟩ := unshown_irrelevant hsame
  exact ⟨rfl, hsame, htotals.symm.trans (by decide +kernel),
    hmissing.symm.trans (by decide +kernel), hmessage.symm⟩

end SalonBooking
