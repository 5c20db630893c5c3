import SalonBooking.Form.Normalize
import SalonBooking.Proofs.Number.Whole

/-!
# What every complete configuration satisfies

The readers of a configuration replace whatever is missing or malformed.  What
they leave satisfies `FormConfig.WellFormed`, and everything that is made from
a configuration relies on it without checking again: ids are there, lists to
choose from are not empty, numbers are ones that a binary number holds, colors
are colors.

`WellFormed` has one structure per record.  Each `wellFormed_ofJson` lemma
says that its reader makes a well-formed record out of any value, and
`wellFormed_of_normalize` puts them together.
-/

namespace SalonBooking

/-! ## Texts with a fallback -/

@[simp] theorem orText_empty_left (s : String) : orText "" s = s := rfl

theorem orText_of_ne {s : String} (h : s ≠ "") (t : String) : orText s t = s := by
  rw [orText, if_neg]
  simpa using h

theorem orText_empty_right (s : String) : orText s "" = s := by
  by_cases h : s = ""
  · rw [h, orText_empty_left]
  · rw [orText_of_ne h]

theorem orText_orText (s t : String) : orText s (orText s t) = orText s t := by
  by_cases h : s = ""
  · rw [h, orText_empty_left]
  · rw [orText_of_ne h, orText_of_ne h]

theorem orText_ne_empty {s t : String} (h : t ≠ "") : orText s t ≠ "" := by
  by_cases hs : s = ""
  · rw [hs, orText_empty_left]
    exact h
  · rw [orText_of_ne hs]
    exact hs

/-- Of two texts that stand in for each other neither is empty, unless both are. -/
theorem orText_ne_empty_of_or {s t : String} (h : s ≠ "" ∨ t ≠ "") : orText s t ≠ "" := by
  rcases h with h | h
  · rw [orText_of_ne h]
    exact h
  · exact orText_ne_empty h

theorem append_ne_empty {s : String} (h : s ≠ "") (t : String) : s ++ t ≠ "" := by
  intro he
  rw [String.append_eq_empty_iff] at he
  exact h he.1

/-! ## Numbers -/

namespace Json

theorem isRepresentable_natOr {fallback : Nat} (h : Binary64.IsRepresentable fallback)
    (v : Json) : Binary64.IsRepresentable (v.natOr fallback) := by
  rw [natOr]
  cases hv : v.readInt? with
  | none => exact h
  | some n =>
    have habs : Binary64.IsRepresentable n.natAbs := by
      cases v with
      | int m => exact .of_truncate? hv
      | float x => exact .of_truncate? hv
      | str s =>
        obtain ⟨x, -, hx⟩ := Option.bind_eq_some_iff.mp hv
        exact .of_truncate? hx
      | null | bool | arr | obj => simp [readInt?] at hv
    -- Negative numbers are read as zero.
    rcases Int.le_total 0 n with hn | hn
    · have he : n.toNat = n.natAbs := by omega
      simpa [he] using habs
    · have he : n.toNat = 0 := by omega
      simpa [he] using Binary64.isRepresentable_of_lt (twoTo_pos 53)

end Json

theorem isRepresentable_thirty : Binary64.IsRepresentable 30 :=
  Binary64.isRepresentable_of_lt (by decide)

theorem positiveOr_pos {fallback : Nat} (h : 0 < fallback) (v : Json) :
    0 < positiveOr fallback v := by
  simp only [positiveOr]
  split <;> omega

theorem isRepresentable_positiveOr {fallback : Nat} (h : Binary64.IsRepresentable fallback)
    (v : Json) : Binary64.IsRepresentable (positiveOr fallback v) := by
  simp only [positiveOr]
  split
  · exact h
  · exact Json.isRepresentable_natOr h v

/-! ## Colors -/

/-- Hexadecimal digits are ASCII digits and letters up to `f`. -/
theorem toNat_of_isHexDigit {c : Char} (h : isHexDigit c = true) :
    48 ≤ c.toNat ∧ c.toNat ≤ 102 := by
  rw [isHexDigit, Text.hexValue?] at h
  split at h
  · rename_i hdigit
    simp only [Char.isDigit, Bool.and_eq_true, decide_eq_true_eq, UInt32.le_iff_toNat_le,
      ge_iff_le] at hdigit
    have hlow : 48 ≤ c.toNat := hdigit.1
    have hhigh : c.toNat ≤ 57 := hdigit.2
    omega
  · split at h
    · rename_i hsmall
      have hlow : 97 ≤ c.toNat := hsmall.1
      have hhigh : c.toNat ≤ 102 := hsmall.2
      omega
    · split at h
      · rename_i hcapital
        have hlow : 65 ≤ c.toNat := hcapital.1
        have hhigh : c.toNat ≤ 70 := hcapital.2
        omega
      · simp at h

/-- A number sign and 3, 4, 6 or 8 hexadecimal digits. -/
def IsColor (s : String) : Prop :=
  ∃ digits : List Char, s = String.ofList ('#' :: digits) ∧ digits.length ∈ [3, 4, 6, 8] ∧
    ∀ c ∈ digits, isHexDigit c = true

theorem isColor_defaultThemeColor : IsColor defaultThemeColor :=
  ⟨['3', 'B', '8', '2', 'F', '6'], rfl, by decide, List.all_eq_true.mp (by decide)⟩

theorem isColor_of_readColor? {v : Json} {s : String} (h : readColor? v = some s) :
    IsColor s := by
  cases v with
  | null | bool | int | float | arr | obj => simp [readColor?] at h
  | str text =>
    rw [readColor?] at h
    split at h
    · rename_i digits _
      split at h
      · rename_i hdigits
        simp only [Bool.and_eq_true, List.contains_iff_mem, List.all_eq_true] at hdigits
        exact ⟨digits, (Option.some.inj h).symm, hdigits.1, hdigits.2⟩
      · simp at h
    · simp at h

theorem isColor_themeColor (candidates : List Json) : IsColor (themeColor candidates) := by
  rw [themeColor]
  cases h : candidates.findSome? readColor? with
  | none => exact isColor_defaultThemeColor
  | some s =>
    obtain ⟨v, -, hv⟩ := List.exists_of_findSome?_eq_some h
    exact isColor_of_readColor? hv

/-! ## Choices -/

structure Choice.WellFormed (c : Choice) : Prop where
  value : c.value ≠ ""
  label : c.label ≠ ""

instance (c : Choice) : Decidable c.WellFormed :=
  decidable_of_iff (c.value ≠ "" ∧ c.label ≠ "") ⟨fun h => ⟨h.1, h.2⟩, fun h => ⟨h.1, h.2⟩⟩

structure ChoiceBlock.WellFormed (block : ChoiceBlock) : Prop where
  nonempty : block.options ≠ []
  options : ∀ c ∈ block.options, c.WellFormed

theorem Choice.wellFormed_ofJson? {v : Json} {c : Choice} (h : Choice.ofJson? v = some c) :
    c.WellFormed := by
  simp only [Choice.ofJson?] at h
  generalize (v.get "value").asText = value at h
  generalize (v.get "label").textOr value = label at h
  split at h
  · simp at h
  · rename_i hsome
    have hor : value ≠ "" ∨ label ≠ "" := by
      by_cases hvalue : value = ""
      · subst hvalue
        exact Or.inr (by simpa using hsome)
      · exact Or.inl hvalue
    obtain rfl := Option.some.inj h
    exact ⟨orText_ne_empty_of_or hor, orText_ne_empty_of_or hor.symm⟩

theorem wellFormed_readChoices {fallback : List Choice}
    (h : ∀ c ∈ fallback, c.WellFormed) (v : Json) :
    ∀ c ∈ readChoices fallback v, c.WellFormed := by
  intro c hc
  simp only [readChoices] at hc
  split at hc
  · exact h c hc
  · obtain ⟨w, -, hw⟩ := List.mem_filterMap.mp hc
    exact Choice.wellFormed_ofJson? hw

theorem readChoices_ne_nil {fallback : List Choice} (h : fallback ≠ []) (v : Json) :
    readChoices fallback v ≠ [] := by
  simp only [readChoices]
  split
  · exact h
  · rename_i hsome
    simpa using hsome

theorem ChoiceBlock.wellFormed_ofJson {fallback : List Choice} (hnonempty : fallback ≠ [])
    (hfallback : ∀ c ∈ fallback, c.WellFormed) (legacySwitch v : Json) :
    (ChoiceBlock.ofJson fallback legacySwitch v).WellFormed :=
  ⟨readChoices_ne_nil hnonempty _, wellFormed_readChoices hfallback _⟩

/-! ## The catalogue -/

structure MenuOption.WellFormed (o : MenuOption) : Prop where
  id : o.id ≠ ""
  price : Binary64.IsRepresentable o.price
  duration : Binary64.IsRepresentable o.duration

structure SubmenuItem.WellFormed (item : SubmenuItem) : Prop where
  id : item.id ≠ ""
  price : Binary64.IsRepresentable item.price
  duration : Binary64.IsRepresentable item.duration

structure LeafMenu.WellFormed (menu : LeafMenu) : Prop where
  id : menu.id ≠ ""
  price : Binary64.IsRepresentable menu.price
  duration : Binary64.IsRepresentable menu.duration
  options : ∀ o ∈ menu.options, o.WellFormed

structure SubmenuMenu.WellFormed (menu : SubmenuMenu) : Prop where
  id : menu.id ≠ ""
  nonempty : menu.items ≠ []
  items : ∀ item ∈ menu.items, item.WellFormed

def Menu.WellFormed : Menu → Prop
  | .leaf menu => menu.WellFormed
  | .submenu menu => menu.WellFormed

theorem Menu.WellFormed.id_ne_empty {menu : Menu} (h : menu.WellFormed) : menu.id ≠ "" := by
  cases menu with
  | leaf menu => exact LeafMenu.WellFormed.id h
  | submenu menu => exact SubmenuMenu.WellFormed.id h

structure Category.WellFormed (category : Category) : Prop where
  id : category.id ≠ ""
  menus : ∀ menu ∈ category.menus, menu.WellFormed

structure Catalogue.WellFormed (catalogue : Catalogue) : Prop where
  structureType : catalogue.structureType ≠ ""
  categories : ∀ category ∈ catalogue.categories, category.WellFormed

theorem isRepresentable_natOr_zero (v : Json) : Binary64.IsRepresentable (v.natOr 0) :=
  Json.isRepresentable_natOr (Binary64.isRepresentable_of_lt (twoTo_pos 53)) v

theorem MenuOption.wellFormed_ofJson (position : Nat) (v : Json) :
    (MenuOption.ofJson position v).WellFormed where
  id := orText_ne_empty (append_ne_empty (by decide) _)
  price := isRepresentable_natOr_zero _
  duration := isRepresentable_natOr_zero _

theorem SubmenuItem.wellFormed_ofJson (position : Nat) (v : Json) :
    (SubmenuItem.ofJson position v).WellFormed where
  id := orText_ne_empty (append_ne_empty (by decide) _)
  price := isRepresentable_natOr_zero _
  duration := isRepresentable_natOr_zero _

theorem Menu.wellFormed_ofJson {fallbackId : String} (h : fallbackId ≠ "") (v : Json) :
    (Menu.ofJson fallbackId v).WellFormed := by
  simp only [Menu.ofJson]
  split
  · rename_i hsubmenu
    refine ⟨orText_ne_empty h, ?_, ?_⟩
    · simp only [Bool.and_eq_true, Bool.not_eq_true', List.isEmpty_eq_false_iff] at hsubmenu
      simpa using hsubmenu.2
    · intro item hitem
      obtain ⟨i, hi, rfl⟩ := List.mem_mapIdx.mp hitem
      exact SubmenuItem.wellFormed_ofJson i _
  · refine ⟨orText_ne_empty h, isRepresentable_natOr_zero _, isRepresentable_natOr_zero _, ?_⟩
    intro o ho
    obtain ⟨i, hi, rfl⟩ := List.mem_mapIdx.mp ho
    exact MenuOption.wellFormed_ofJson i _

/-- What a list is read to comes from one of its entries. -/
theorem exists_of_mem_readPositioned {α : Type} {read : Nat → Json → α} {vs : List Json} {a : α}
    (h : a ∈ readPositioned read vs) : ∃ i v, v ∈ vs ∧ a = read i v := by
  induction vs generalizing read with
  | nil => simp at h
  | cons v rest ih =>
    rw [readPositioned_cons, List.mem_append] at h
    rcases h with h | h
    · cases hv : v.isObject with
      | false => simp [hv] at h
      | true =>
        rw [hv, itemIf_true, List.mem_singleton] at h
        exact ⟨0, v, List.mem_cons_self, h⟩
    · obtain ⟨i, w, hw, ha⟩ := ih h
      exact ⟨i + 1, w, List.mem_cons_of_mem v hw, ha⟩

theorem Category.wellFormed_ofJson (position : Nat) (v : Json) :
    (Category.ofJson position v).WellFormed := by
  have hid : (Category.ofJson position v).id ≠ "" :=
    orText_ne_empty (append_ne_empty (by decide) _)
  refine ⟨hid, ?_⟩
  intro menu hmenu
  simp only [Category.ofJson] at hmenu
  obtain ⟨i, w, -, rfl⟩ := exists_of_mem_readPositioned hmenu
  exact Menu.wellFormed_ofJson (append_ne_empty (append_ne_empty hid _) _) w

theorem Catalogue.wellFormed_ofJson (legacy v : Json) :
    (Catalogue.ofJson legacy v).WellFormed := by
  refine ⟨orText_ne_empty (by decide), ?_⟩
  intro category hcategory
  obtain ⟨i, w, -, rfl⟩ := exists_of_mem_readPositioned hcategory
  exact Category.wellFormed_ofJson i w

/-! ## The schedule -/

structure MultipleDates.WellFormed (m : MultipleDates) : Prop where
  rangeDays_pos : 0 < m.rangeDays
  rangeDays_le : m.rangeDays ≤ maxRangeDays
  /-- The days stand in the order of their numbers, each at most once. -/
  excluded : List.Sublist m.excluded Weekday.all
  startTime : m.startTime ≠ ""
  endTime : m.endTime ≠ ""

structure Schedule.WellFormed (s : Schedule) : Prop where
  advanceDays_pos : 0 < s.advanceDays
  advanceDays : Binary64.IsRepresentable s.advanceDays
  multipleDates : s.multipleDates.WellFormed

theorem MultipleDates.wellFormed_ofJson (v : Json) : (MultipleDates.ofJson v).WellFormed where
  rangeDays_pos := by
    have hpos : 0 < positiveOr 30 (v.get "date_range_days") := positiveOr_pos (by decide) _
    simp only [MultipleDates.ofJson, maxRangeDays]
    omega
  rangeDays_le := Nat.min_le_right _ _
  excluded := by
    simp only [MultipleDates.ofJson]
    split
    · exact List.filter_sublist
    · decide
  startTime := orText_ne_empty (by decide)
  endTime := orText_ne_empty (by decide)

theorem Schedule.wellFormed_ofJson (rules v : Json) : (Schedule.ofJson rules v).WellFormed where
  advanceDays_pos := positiveOr_pos (by decide) _
  advanceDays := isRepresentable_positiveOr isRepresentable_thirty _
  multipleDates := MultipleDates.wellFormed_ofJson _

/-! ## Custom fields -/

structure CustomField.WellFormed (field : CustomField) : Prop where
  id : field.id ≠ ""
  title : field.title ≠ ""
  options : ∀ c ∈ field.options, c.WellFormed
  /-- A question that is answered by choosing has something to choose. -/
  nonempty : field.kind.hasChoices = true → field.options ≠ []

theorem CustomField.wellFormed_ofJson? {position : Nat} {v : Json} {field : CustomField}
    (h : CustomField.ofJson? position v = some field) : field.WellFormed := by
  obtain ⟨kind, -, hrest⟩ := Option.bind_eq_some_iff.mp h
  have hid : orText (v.get "id").asText ("field-" ++ toString position) ≠ "" :=
    orText_ne_empty (append_ne_empty (by decide) _)
  by_cases hchoices : (kind.hasChoices && (readChoices [] (v.get "options")).isEmpty) = true
  · simp [hchoices] at hrest
  · simp only [hchoices, Bool.false_eq_true, if_false, Option.some.injEq] at hrest
    subst hrest
    refine ⟨hid, orText_ne_empty hid, wellFormed_readChoices (by simp) _, ?_⟩
    intro hkind hnil
    rw [Bool.and_eq_true, List.isEmpty_iff] at hchoices
    exact hchoices ⟨hkind, hnil⟩

theorem wellFormed_readCustomFields (v : Json) :
    ∀ field ∈ readCustomFields v, field.WellFormed := by
  intro field hfield
  obtain ⟨read, hread, hsome⟩ := List.mem_filterMap.mp hfield
  obtain ⟨i, w, -, rfl⟩ := exists_of_mem_readPositioned hread
  exact CustomField.wellFormed_ofJson? hsome

/-! ## The whole form -/

structure BasicInfo.WellFormed (info : BasicInfo) : Prop where
  formName : info.formName ≠ ""
  themeColor : IsColor info.themeColor

structure FormConfig.WellFormed (config : FormConfig) : Prop where
  basicInfo : config.basicInfo.WellFormed
  gender : config.gender.WellFormed
  visitCount : config.visitCount.WellFormed
  coupon : config.coupon.WellFormed
  catalogue : config.catalogue.WellFormed
  schedule : config.schedule.WellFormed
  uiThemeColor : IsColor config.ui.themeColor
  customFields : ∀ field ∈ config.customFields, field.WellFormed

theorem FormConfig.wellFormed_ofStored (form : StoredForm) :
    (FormConfig.ofStored form).WellFormed where
  basicInfo := ⟨orText_ne_empty (orText_ne_empty (by decide)), isColor_themeColor _⟩
  gender := ChoiceBlock.wellFormed_ofJson (by decide) (by decide) _ _
  visitCount := ChoiceBlock.wellFormed_ofJson (by decide) (by decide) _ _
  coupon := ChoiceBlock.wellFormed_ofJson (by decide) (by decide) _ _
  catalogue := Catalogue.wellFormed_ofJson _ _
  schedule := Schedule.wellFormed_ofJson _ _
  uiThemeColor := isColor_themeColor _
  customFields := wellFormed_readCustomFields _

variable {limits : Limits} {source : Source} {config : FormConfig}

theorem FormConfig.ofStored?_eq_ok_iff {form : StoredForm} :
    FormConfig.ofStored? limits form = .ok config ↔
      form.texts.all (Json.hasText limits) = true ∧ FormConfig.ofStored form = config := by
  rw [FormConfig.ofStored?]
  split
  · rename_i htexts
    simp [htexts]
  · rename_i htexts
    simp [htexts]

/-- A complete configuration comes with a record that has nothing. -/
theorem normalize_config (limits : Limits) (config : FormConfig) :
    normalize limits (.config config) =
      FormConfig.ofStored? limits ⟨config.toJson, .obj [], .null⟩ := by
  rw [normalize, StoredForm.ofSource, Except.bind]

/-- A source that makes a form holds one whose texts can be taken. -/
theorem normalize_eq_ok_iff :
    normalize limits source = .ok config ↔ ∃ form, StoredForm.ofSource limits source = .ok form ∧
      form.texts.all (Json.hasText limits) = true ∧ FormConfig.ofStored form = config := by
  rw [normalize]
  cases StoredForm.ofSource limits source with
  | error e => simp [Except.bind]
  | ok form => simp [Except.bind, FormConfig.ofStored?_eq_ok_iff]

/-- Whatever a form is made from, its configuration is well formed. -/
theorem wellFormed_of_normalize (h : normalize limits source = .ok config) :
    config.WellFormed := by
  obtain ⟨form, -, -, rfl⟩ := normalize_eq_ok_iff.mp h
  exact FormConfig.wellFormed_ofStored form

end SalonBooking
