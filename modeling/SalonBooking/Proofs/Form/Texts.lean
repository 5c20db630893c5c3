import SalonBooking.Proofs.Form.MemberOrder
import SalonBooking.Proofs.Form.WellFormed
import SalonBooking.Proofs.Json.Parts

/-!
# The texts that make a configuration

The texts of a part are found by asking it for members and items, so they are
kept by every relation between values that members and items keep.  There are
two such relations of interest: to be the same up to the order of members, and
to be a value that fits the machine.

* `KeptByParts.texts`: the texts of two forms are related as the forms are.
* `FormConfig.ofStored?_congr`: so the order of members decides neither whether
  a configuration is read nor what it is read as.
* `StoredForm.all_hasText`: and where the integers fit the machine all texts are
  taken.
-/

namespace SalonBooking

namespace Json

variable {limits : Limits} {v : Json}

theorem Same.hasText {w : Json} (h : v.Same w) : v.hasText limits = w.hasText limits := by
  cases h <;> rfl

/-! ## Relations that parts keep -/

/-- A relation between values that are the same which holds between their parts as well. -/
structure KeptByParts (R : Json → Json → Prop) : Prop where
  same {v w : Json} : R v w → v.Same w
  get {v w : Json} : R v w → ∀ key, R (v.get key) (w.get key)
  items {v w : Json} : R v w → List.Forall₂ R v.items w.items

theorem keptByParts_same : KeptByParts Same :=
  ⟨fun h => h, Same.get, Same.items⟩

theorem keptByParts_fits (limits : Limits) :
    KeptByParts fun v w => v = w ∧ v.fits limits = true where
  same := by
    rintro v w ⟨rfl, -⟩
    exact .refl v
  get := by
    rintro v w ⟨rfl, h⟩ key
    exact ⟨rfl, fits_get h key⟩
  items := by
    rintro v w ⟨rfl, h⟩
    exact List.forall₂_same.mpr fun item hitem => ⟨rfl, fits_of_mem_items h hitem⟩

end Json

/-! ## The texts of the parts -/

section

variable {R : Json → Json → Prop} {v w : Json}

theorem Json.KeptByParts.members (hR : Json.KeptByParts R) (h : R v w) (keys : List String) :
    List.Forall₂ R (keys.map v.get) (keys.map w.get) := by
  rw [List.forall₂_map_left_iff, List.forall₂_map_right_iff, List.forall₂_same]
  exact fun key _ => hR.get h key

theorem Json.KeptByParts.filter_isObject (hR : Json.KeptByParts R) {vs ws : List Json}
    (h : List.Forall₂ R vs ws) :
    List.Forall₂ R (vs.filter Json.isObject) (ws.filter Json.isObject) := by
  refine @List.rel_filter _ _ R Json.isObject Json.isObject (fun u u' hu => ?_) _ _ h
  show u.isObject = true ↔ u'.isObject = true
  rw [(hR.same hu).isObject]

theorem Choice.texts_rel (hR : Json.KeptByParts R) (h : R v w) :
    List.Forall₂ R (Choice.texts v) (Choice.texts w) :=
  hR.members h ["value", "label"]

theorem choiceTexts_rel (hR : Json.KeptByParts R) (h : R v w) :
    List.Forall₂ R (choiceTexts v) (choiceTexts w) :=
  List.rel_flatMap (hR.items h) fun _ _ => Choice.texts_rel hR

theorem ChoiceBlock.texts_rel (hR : Json.KeptByParts R) (h : R v w) :
    List.Forall₂ R (ChoiceBlock.texts v) (ChoiceBlock.texts w) :=
  List.rel_append (choiceTexts_rel hR (hR.get h "options")) (hR.members h ["coupon_name"])

theorem Menu.texts_rel (hR : Json.KeptByParts R) (h : R v w) :
    List.Forall₂ R (Menu.texts v) (Menu.texts w) := by
  have hitems := hR.filter_isObject (hR.items (hR.get h "sub_menu_items"))
  have hoptions := hR.items (hR.get h "options")
  have hopens := ((hR.same h).get "has_submenu").boolOr false
  have hempty := Json.Same.isEmpty_eq (hitems.imp fun _ _ => hR.same)
  simp only [Menu.texts, hopens, hempty]
  refine List.rel_append (hR.members h ["id", "name", "description", "image"]) ?_
  split
  · exact List.rel_flatMap hitems fun _ _ hitem => hR.members hitem _
  · exact List.rel_flatMap hoptions fun _ _ hoption => hR.members hoption _

theorem Category.texts_rel (hR : Json.KeptByParts R) (h : R v w) :
    List.Forall₂ R (Category.texts v) (Category.texts w) :=
  List.rel_append (hR.members h ["id", "name", "selection_mode"])
    (List.rel_flatMap (hR.items (hR.get h "menus")) fun _ _ => Menu.texts_rel hR)

theorem storedCategories_self (v : Json) : storedCategories v v = storedCategories .null v := by
  rw [storedCategories, storedCategories]
  generalize (v.get "categories").items = own
  cases own <;> rfl

theorem storedCategories_rel (hR : Json.KeptByParts R) {legacy legacy' : Json}
    (hlegacy : R legacy legacy') (h : R v w) :
    List.Forall₂ R (storedCategories legacy v) (storedCategories legacy' w) := by
  have hown := hR.items (hR.get h "categories")
  have hempty := Json.Same.isEmpty_eq (hown.imp fun _ _ => hR.same)
  simp only [storedCategories, hempty]
  split
  · exact hR.items (hR.get hlegacy "categories")
  · exact hown

theorem Catalogue.texts_rel (hR : Json.KeptByParts R) {legacy legacy' : Json}
    (hlegacy : R legacy legacy') (h : R v w) :
    List.Forall₂ R (Catalogue.texts legacy v) (Catalogue.texts legacy' w) :=
  List.rel_append
    (List.rel_flatMap (storedCategories_rel hR hlegacy h) fun _ _ => Category.texts_rel hR)
    (hR.members h ["structure_type"])

theorem WeekHours.texts_rel (hR : Json.KeptByParts R) (h : R v w) :
    List.Forall₂ R (WeekHours.texts v) (WeekHours.texts w) := by
  have hdays : List.Forall₂ Eq Weekday.all Weekday.all := List.forall₂_refl _
  refine List.rel_flatMap hdays ?_
  rintro day _ rfl
  exact hR.members (hR.get h day.name) ["open", "close"]

theorem storedHours_rel (hR : Json.KeptByParts R) {rules rules' : Json} (hrules : R rules rules')
    (h : R v w) : R (storedHours rules v) (storedHours rules' w) := by
  have hown := hR.get h "business_hours"
  rw [storedHours, storedHours, Json.orElse, Json.orElse, (hR.same hown).isTruthy]
  split
  · exact hown
  · exact hR.get hrules "business_hours"

theorem Schedule.texts_rel (hR : Json.KeptByParts R) {rules rules' : Json}
    (hrules : R rules rules') (h : R v w) :
    List.Forall₂ R (Schedule.texts rules v) (Schedule.texts rules' w) :=
  List.rel_append
    (List.rel_append (WeekHours.texts_rel hR (storedHours_rel hR hrules h))
      (hR.members h ["booking_mode"]))
    (hR.members (hR.get h "multiple_dates_settings") ["start_time", "end_time"])

theorem CustomField.texts_rel (hR : Json.KeptByParts R) (h : R v w) :
    List.Forall₂ R (CustomField.texts v) (CustomField.texts w) := by
  have hsame := hR.same h
  refine .cons (hR.get h "type") ?_
  rw [(hsame.get "type").asText, readChoices_congr [] (hsame.get "options")]
  cases FieldKind.ofName? (w.get "type").asText with
  | none => exact .nil
  | some kind =>
    refine List.rel_append (choiceTexts_rel hR (hR.get h "options")) ?_
    split
    · exact .nil
    · exact hR.members h ["id", "title", "placeholder"]

/-! ## The whole form -/

theorem rel_itemIf {condition condition' : Bool} (hcondition : condition = condition')
    (h : R v w) : List.Forall₂ R (itemIf condition v) (itemIf condition' w) := by
  subst hcondition
  cases condition with
  | false => exact .nil
  | true => exact .cons h .nil

theorem BasicInfo.texts_rel (hR : Json.KeptByParts R) {form form' : StoredForm}
    (hconfig : R form.config form'.config) (hrecord : R form.record form'.record) :
    List.Forall₂ R (BasicInfo.texts form) (BasicInfo.texts form') := by
  have hbasic := hR.get hconfig "basic_info"
  have hname := hR.get hrecord "form_name"
  have hliff := hR.get hbasic "liff_id"
  have hunnamed := congrArg String.isEmpty (hR.same hname).asText
  have hunlinked := congrArg String.isEmpty (hR.same hliff).asText
  refine List.rel_append (List.rel_append (List.rel_append (.cons hname ?_) ?_) ?_) ?_
  · exact rel_itemIf hunnamed (hR.get hbasic "form_name")
  · exact hR.members hbasic ["store_name", "liff_id"]
  · exact rel_itemIf hunlinked (hR.get (hR.get hrecord "line_settings") "liff_id")
  · exact hR.members hbasic ["logo_url"]

/-- The texts of two forms are related as the forms are. -/
theorem Json.KeptByParts.texts (hR : Json.KeptByParts R) {form form' : StoredForm}
    (hconfig : R form.config form'.config) (hrecord : R form.record form'.record) :
    List.Forall₂ R form.texts form'.texts := by
  have hget (key : String) := hR.get hconfig key
  refine List.rel_append (List.rel_append (List.rel_append (List.rel_append (List.rel_append ?_ ?_)
    ?_) ?_) ?_) ?_
  · exact BasicInfo.texts_rel hR hconfig hrecord
  · refine @List.rel_flatMap _ _ _ _ Eq R _ _ (List.forall₂_refl _) _ _ ?_
    rintro key _ rfl
    exact ChoiceBlock.texts_rel hR (hget key)
  · exact Catalogue.texts_rel hR (hR.get hrecord "menu_structure") (hget "menu_structure")
  · exact Schedule.texts_rel hR (hR.get hrecord "business_rules") (hget "calendar_settings")
  · exact hR.members (hget "ui_settings") ["button_style"]
  · exact List.rel_flatMap (hR.items (hget "custom_fields")) fun _ _ => CustomField.texts_rel hR

end

variable {limits : Limits} {form form' : StoredForm}

/-- The order of members decides neither whether a form is read nor what it is read as. -/
theorem FormConfig.ofStored?_congr (h : form.Same form') :
    FormConfig.ofStored? limits form = FormConfig.ofStored? limits form' := by
  have htexts : form.texts.all (Json.hasText limits) = form'.texts.all (Json.hasText limits) := by
    have hrel := Json.keptByParts_same.texts h.config h.record
    generalize form.texts = texts at hrel ⊢
    generalize form'.texts = texts' at hrel ⊢
    induction hrel with
    | nil => rfl
    | cons htext _ ih => rw [List.all_cons, List.all_cons, htext.hasText, ih]
  rw [FormConfig.ofStored?, FormConfig.ofStored?, htexts, FormConfig.ofStored_congr h]

/-- Where the integers fit the machine all texts are taken. -/
theorem StoredForm.all_hasText (hconfig : form.config.fits limits = true)
    (hrecord : form.record.fits limits = true) :
    form.texts.all (Json.hasText limits) = true := by
  have hrel := (Json.keptByParts_fits limits).texts ⟨rfl, hconfig⟩ ⟨rfl, hrecord⟩
  refine List.all_eq_true.mpr fun text htext => ?_
  exact Json.hasText_of_fits (List.forall₂_same.mp hrel text htext).2

theorem FormConfig.ofStored?_of_fits (hconfig : form.config.fits limits = true)
    (hrecord : form.record.fits limits = true) :
    FormConfig.ofStored? limits form = .ok (FormConfig.ofStored form) :=
  FormConfig.ofStored?_eq_ok_iff.mpr ⟨StoredForm.all_hasText hconfig hrecord, rfl⟩

end SalonBooking
