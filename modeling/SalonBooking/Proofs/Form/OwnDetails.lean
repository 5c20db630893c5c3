import SalonBooking.Proofs.Data.Results
import SalonBooking.Proofs.Form.Carriers

/-!
# The details of a record

A record lends its name, its rules and its catalogue to the configuration inside
where that has none.  It could lend its details of the salon in the same way, if
it has any beside the configuration.  But these details are what a bare
configuration is told by: with them the record is taken for a configuration, and
the one inside counts for nothing.

* `FormConfig.completed`: what a form would be if the details were lent.
* `config_eq_or_completed`: no form has details to be completed with.
* `normalize_own`: what a record with details is read as.
* `own_details_displace`: the details are lent to every configuration exactly if
  there are none.
-/

namespace SalonBooking

/-! ## Members set and left out -/

namespace Json

/-- An object with one member set. -/
def setMember (v : Json) (key : String) (value : Json) : Json :=
  .obj (v.members.set key value)

/-- An object without a member. -/
def without (v : Json) (key : String) : Json :=
  .obj (v.members.erase key)

variable {v value : Json} {key other : String}

theorem get_setMember_self : (v.setMember key value).get key = value := by
  rw [get, setMember, members, Assoc.get?_set_self, Option.getD_some]

theorem get_setMember_of_ne (h : other ≠ key) :
    (v.setMember key value).get other = v.get other := by
  rw [get, setMember, members, Assoc.get?_set_of_ne h, get]

theorem hasMember_setMember_of_ne (h : other ≠ key) :
    (v.setMember key value).hasMember other = v.hasMember other := by
  rw [hasMember, Assoc.contains, setMember, members, Assoc.get?_set_of_ne h, hasMember,
    Assoc.contains]

theorem get_without_of_ne (h : other ≠ key) : (v.without key).get other = v.get other := by
  rw [get, without, members, Assoc.get?_erase_of_ne h, get]

theorem hasMember_without_self : (v.without key).hasMember key = false := by
  rw [hasMember, Assoc.contains, without, members, Assoc.get?_erase_self, Option.isSome_none]

theorem hasMember_without_of_ne (h : other ≠ key) :
    (v.without key).hasMember other = v.hasMember other := by
  rw [hasMember, Assoc.contains, without, members, Assoc.get?_erase_of_ne h, hasMember,
    Assoc.contains]

theorem firstPresent_null (v : Json) : firstPresent [v, .null] = v := by
  cases v <;> rfl

end Json

/-! ## What the details would be for -/

/-- A form whose configuration lacks some of the salon's details, with others for these. -/
def FormConfig.completed (config : FormConfig) (details c : Json) : FormConfig :=
  let basic := c.get "basic_info"
  { config with
    basicInfo.storeName := orText config.basicInfo.storeName (details.get "store_name").asText
    basicInfo.logoUrl := orText config.basicInfo.logoUrl (details.get "logo_url").asText
    basicInfo.liffId := orText (basic.get "liff_id").asText
      (orText (details.get "liff_id").asText config.basicInfo.liffId)
    basicInfo.themeColor := themeColor [basic.get "theme_color", details.get "theme_color"]
    gender := .ofJson defaultGenders
      (Json.firstPresent [basic.get "show_gender_selection", details.get "show_gender_selection"])
      (c.get "gender_selection") }

/-- A record lends its details to a configuration inside of it: the form is the one without the
details, completed, and where there is none without them there is none for the same reason. -/
def LendsDetails (limits : Limits) (record c : Json) : Prop :=
  normalize limits (.value record) =
    (normalize limits (.value (record.without "basic_info"))).map
      (·.completed (record.get "basic_info") c)

/-- Where there are no details there is nothing to complete. -/
theorem completed_null (c record recordUi : Json) :
    (FormConfig.ofStored ⟨c, record, recordUi⟩).completed .null c =
      FormConfig.ofStored ⟨c, record, recordUi⟩ := by
  have hcolor (v : Json) : themeColor [v, .null] = themeColor [v] := by
    simp [themeColor, List.findSome?_cons, readColor?]
  have hnull (key : String) : Json.null.get key = .null := rfl
  have htext : Json.null.asText = "" := rfl
  simp only [FormConfig.completed, FormConfig.ofStored, BasicInfo.ofStored, hnull, htext, hcolor,
    orText_empty_right, orText_empty_left, Json.firstPresent_null, orText_orText]

theorem map_completed_null (limits : Limits) (c record recordUi : Json) :
    (FormConfig.ofStored? limits ⟨c, record, recordUi⟩).map (·.completed .null c) =
      FormConfig.ofStored? limits ⟨c, record, recordUi⟩ := by
  rw [FormConfig.ofStored?]
  split
  · rw [Except.map, completed_null]
  · rfl

/-! ## What a record is read as -/

variable {limits : Limits}

/-- A form is made from the members of its configuration, but for a further configuration inside,
and from those of the record around it. -/
theorem ofStored?_congr_get {form form' : StoredForm}
    (hconfig : ∀ key, key ≠ "config" → form.config.get key = form'.config.get key)
    (hrecord : ∀ key, key ≠ "config" → key ≠ "basic_info" →
      form.record.get key = form'.record.get key)
    (hui : form.recordUi = form'.recordUi) :
    FormConfig.ofStored? limits form = FormConfig.ofStored? limits form' := by
  simp only [FormConfig.ofStored?, StoredForm.texts, BasicInfo.texts, List.flatMap_cons,
    List.flatMap_nil,
    FormConfig.ofStored, BasicInfo.ofStored, UiSettings.ofStored, hui,
    hconfig "basic_info" (by decide), hconfig "gender_selection" (by decide),
    hconfig "visit_count_selection" (by decide), hconfig "coupon_selection" (by decide),
    hconfig "menu_structure" (by decide), hconfig "calendar_settings" (by decide),
    hconfig "ui_settings" (by decide), hconfig "custom_fields" (by decide),
    hrecord "form_name" (by decide) (by decide), hrecord "line_settings" (by decide) (by decide),
    hrecord "menu_structure" (by decide) (by decide),
    hrecord "business_rules" (by decide) (by decide)]

variable {record inside c : Json}

/-- An object that is not taken for a configuration has no details. -/
theorem config_eq_or_of_ofJson {v : Json} {form : StoredForm}
    (h : StoredForm.ofJson limits v = .ok form) :
    form.config = form.record ∨ form.record.get "basic_info" = .null := by
  rw [StoredForm.ofJson] at h
  split at h
  · obtain ⟨config, -, rfl⟩ := map_eq_ok_iff.mp h
    split
    · rename_i hinside
      simp only [Bool.and_eq_true, Bool.not_eq_true'] at hinside
      exact Or.inr (Json.get_of_not_hasMember hinside.2)
    · exact Or.inl rfl
  · cases h

/-- No source has a record around its configuration that could complete it. -/
theorem config_eq_or_completed {source : Source} {form : StoredForm}
    (h : StoredForm.ofSource limits source = .ok form) : form.config = form.record ∨
      (FormConfig.ofStored form).completed (form.record.get "basic_info") form.config =
        FormConfig.ofStored form := by
  have hnone : form.config = form.record ∨ form.record.get "basic_info" = .null := by
    -- What is complete already comes with an empty record; all else is read from a value.
    by_cases hcomplete : ∃ config, source = .config config
    · obtain ⟨config, rfl⟩ := hcomplete
      obtain rfl := Except.ok.inj h
      exact Or.inr rfl
    · rw [ofSource_eq_ofText (not_exists.mp hcomplete)] at h
      cases hheld : source.held limits with
      | error e =>
        rw [hheld] at h
        cases h
      | ok v =>
        rw [hheld] at h
        exact config_eq_or_of_ofJson h
  refine hnone.imp_right fun hdetails => ?_
  rw [hdetails]
  exact completed_null form.config form.record form.recordUi

/-- A record with details of its own is taken for a configuration. -/
theorem normalize_own {v : Json} (hrecord : record.isObject = true)
    (hinner : StoredForm.inner limits record = .ok v)
    (hbasic : record.hasMember "basic_info" = true) :
    normalize limits (.value record) =
      FormConfig.ofStored? limits ⟨record, record, .null⟩ := by
  rw [normalize_of_isObject hrecord, StoredForm.ofJson, if_pos hrecord, StoredForm.ofObject,
    bind_map_eq, hinner]
  simp only [Except.bind, hbasic, Bool.not_true, Bool.and_false]
  rfl

/-- What is inside of a record with details of its own counts for nothing. -/
theorem normalize_setMember_of_own (hbasic : record.hasMember "basic_info" = true)
    (hinside : (Source.value inside).Holds limits c) :
    normalize limits (.value (record.setMember "config" inside)) =
      normalize limits (.value (record.without "config")) := by
  obtain ⟨v, hinner, -⟩ :
      ∃ v, StoredForm.inner limits (record.setMember "config" inside) = .ok v ∧ v.Same c :=
    exists_inner (by rwa [Json.get_setMember_self])
  have hinner' : StoredForm.inner limits (record.without "config") = .ok .null := by
    rw [StoredForm.inner, Json.get_of_not_hasMember Json.hasMember_without_self]
  have hne : "basic_info" ≠ "config" := by decide
  rw [normalize_own rfl hinner (by rwa [Json.hasMember_setMember_of_ne hne]),
    normalize_own rfl hinner' (by rwa [Json.hasMember_without_of_ne hne])]
  have hget (key : String) (hkey : key ≠ "config") :
      (record.setMember "config" inside).get key = (record.without "config").get key := by
    rw [Json.get_setMember_of_ne hkey, Json.get_without_of_ne hkey]
  exact ofStored?_congr_get hget (fun key hkey _ => hget key hkey) rfl

/-- Without details a record is read as the configuration inside. -/
theorem normalize_setMember_of_not_own (hbasic : record.hasMember "basic_info" = false)
    (hinside : (Source.value inside).Holds limits c) (hc : c.isObject = true) :
    normalize limits (.value (record.setMember "config" inside)) =
      FormConfig.ofStored? limits ⟨c, record, record.get "ui_settings"⟩ := by
  have hne {key : String} (hkey : key ≠ "config") :
      (record.setMember "config" inside).get key = record.get key := Json.get_setMember_of_ne hkey
  rw [normalize_inside rfl (by rwa [Json.get_setMember_self]) hc
    (by rwa [Json.hasMember_setMember_of_ne (by decide)])]
  exact ofStored?_congr_get (fun _ _ => rfl) (fun key hkey _ => hne hkey) (hne (by decide))

/-- The form without the details, which is the one to be completed. -/
theorem normalize_without_details (hinside : (Source.value inside).Holds limits c)
    (hc : c.isObject = true) :
    normalize limits (.value ((record.setMember "config" inside).without "basic_info")) =
      FormConfig.ofStored? limits ⟨c, record, record.get "ui_settings"⟩ := by
  have hget {key : String} (hkey : key ≠ "config") (hkey' : key ≠ "basic_info") :
      ((record.setMember "config" inside).without "basic_info").get key = record.get key := by
    rw [Json.get_without_of_ne hkey', Json.get_setMember_of_ne hkey]
  have hinside' :
      ((record.setMember "config" inside).without "basic_info").get "config" = inside := by
    rw [Json.get_without_of_ne (by decide), Json.get_setMember_self]
  rw [normalize_inside rfl (by rwa [hinside']) hc Json.hasMember_without_self]
  exact ofStored?_congr_get (fun _ _ => rfl) (fun key => hget) (hget (by decide) (by decide))

/-! ## Lending -/

/-- A record without details lends what there is to lend. -/
theorem lendsDetails_of_not_own (hbasic : record.hasMember "basic_info" = false)
    (hinside : (Source.value inside).Holds limits c) (hc : c.isObject = true) :
    LendsDetails limits (record.setMember "config" inside) c := by
  rw [LendsDetails, normalize_without_details hinside hc,
    normalize_setMember_of_not_own hbasic hinside hc, Json.get_setMember_of_ne (by decide),
    Json.get_of_not_hasMember hbasic, map_completed_null]

/-- The questions of a form are not lent. -/
theorem customFields_of_lendsDetails
    (h : LendsDetails limits (record.setMember "config" inside) c)
    (hinside : (Source.value inside).Holds limits c) (hc : c.isObject = true)
    (hfits : c.fits limits = true) (hrecord : record.fits limits = true) :
    ∃ config, normalize limits (.value (record.setMember "config" inside)) = .ok config ∧
      config.customFields = readCustomFields (c.get "custom_fields") := by
  rw [LendsDetails, normalize_without_details hinside hc,
    FormConfig.ofStored?_of_fits hfits hrecord] at h
  exact ⟨_, h, rfl⟩

/-- A configuration with some questions. -/
def withQuestions (questions : List Json) : Json :=
  .obj [("custom_fields", .arr questions)]

/-- A record with details does not lend them to each configuration, because the form is the same
for all of them. -/
theorem exists_not_lendsDetails (hbasic : record.hasMember "basic_info" = true)
    (hrecord : record.fits limits = true) :
    ∃ c : Json, c.isObject = true ∧ ¬ LendsDetails limits (record.setMember "config" c) c := by
  by_contra hall
  simp only [not_exists, not_and, not_not] at hall
  -- The one form that there is would have the questions of every configuration.
  have hquestions (questions : List Json) (hfits : (withQuestions questions).fits limits = true) :
      ∃ config, normalize limits (.value (record.without "config")) = .ok config ∧
        config.customFields = readCustomFields (.arr questions) := by
    have hself : (Source.value (withQuestions questions)).Holds limits (withQuestions questions) :=
      ⟨_, held_value rfl, .refl _⟩
    rw [← normalize_setMember_of_own hbasic hself]
    exact customFields_of_lendsDetails (hall _ rfl) hself rfl hfits hrecord
  obtain ⟨config, hconfig, hnone⟩ := hquestions [] (Limits.allows_of_le (by decide))
  obtain ⟨config', hconfig', hone⟩ :=
    hquestions [.obj [("type", .str "text")]] (Limits.allows_of_le (by decide))
  rw [hconfig] at hconfig'
  obtain rfl := Except.ok.inj hconfig'
  rw [hnone] at hone
  exact absurd hone (by decide +kernel)

/-- A record lends its details to every configuration inside exactly if it has none, unless it has
an integer that the machine does not convert.  If it has any details, the configuration inside
counts for nothing, and they are lent to it exactly if the record alone happens to make the same
form.  So no form is ever completed with details of a record around its configuration. -/
theorem own_details_displace (limits : Limits) (record : Json) :
    (record.hasMember "basic_info" = false →
      ∀ inside c, c.isObject = true → (Source.value inside).Holds limits c →
        LendsDetails limits (record.setMember "config" inside) c) ∧
    (record.fits limits = true →
      ((∀ inside c, c.isObject = true → (Source.value inside).Holds limits c →
          LendsDetails limits (record.setMember "config" inside) c) ↔
        record.hasMember "basic_info" = false)) ∧
    (record.hasMember "basic_info" = true → ∀ inside c, (Source.value inside).Holds limits c →
      (∀ source : Source, source.Holds limits (record.setMember "config" inside) →
        normalize limits source = normalize limits (.value (record.without "config"))) ∧
      (LendsDetails limits (record.setMember "config" inside) c ↔
        normalize limits (.value (record.without "config")) =
          (normalize limits (.value ((record.setMember "config" inside).without "basic_info"))).map
            (·.completed (record.get "basic_info") c))) ∧
    ∀ source form, StoredForm.ofSource limits source = .ok form → form.config = form.record ∨
      (FormConfig.ofStored form).completed (form.record.get "basic_info") form.config =
        FormConfig.ofStored form := by
  have hlends : record.hasMember "basic_info" = false →
      ∀ inside c, c.isObject = true → (Source.value inside).Holds limits c →
        LendsDetails limits (record.setMember "config" inside) c :=
    fun hbasic _ _ hc hinside => lendsDetails_of_not_own hbasic hinside hc
  refine ⟨hlends, fun hfits => ⟨fun hall => ?_, hlends⟩, fun hbasic inside c hinside => ?_,
    fun source form => config_eq_or_completed⟩
  · by_contra hbasic
    obtain ⟨c, hc, hnot⟩ := exists_not_lendsDetails (by simpa using hbasic) hfits
    exact hnot (hall c c hc ⟨c, held_value hc, .refl c⟩)
  · have hown := normalize_setMember_of_own hbasic hinside
    refine ⟨fun source hsource => (normalize_of_holds hsource rfl).trans hown, ?_⟩
    rw [LendsDetails, hown, Json.get_setMember_of_ne (by decide)]

/-- A configuration with a menu, and nothing else. -/
def oneMenu : Json :=
  .obj [("menu_structure", .obj [("categories", .arr [.obj [("id", .str "hair"), ("menus", .arr [
    .obj [("id", .str "cut"), ("price", .int 4000)]])]])])]

/-- A record with the name of the salon beside the configuration. -/
def namedRecord : Json :=
  .obj [("config", oneMenu), ("basic_info", .obj [("store_name", .str "サロン")])]

theorem own_details_displace_oneMenu :
    (Source.value oneMenu).Holds .standard oneMenu ∧ namedRecord.hasMember "basic_info" = true ∧
      normalize .standard (.value namedRecord) =
        normalize .standard (.value (namedRecord.without "config")) ∧
      (∃ inside c, c.isObject = true ∧ (Source.value inside).Holds .standard c ∧
        ¬ LendsDetails .standard (namedRecord.setMember "config" inside) c) ∧
      LendsDetails .standard (.obj [("form_name", .str "予約"), ("config", oneMenu)]) oneMenu := by
  have hholds : (Source.value oneMenu).Holds .standard oneMenu := ⟨_, held_value rfl, .refl _⟩
  have hsource : (Source.value namedRecord).Holds .standard
      (namedRecord.setMember "config" oneMenu) :=
    ⟨_, held_value rfl, .refl _⟩
  obtain ⟨-, hexactly, hdisplaced, -⟩ := own_details_displace .standard namedRecord
  refine ⟨hholds, rfl, (hdisplaced rfl _ _ hholds).1 _ hsource, ?_,
    (own_details_displace .standard (.obj [("form_name", .str "予約")])).1 rfl _ _ rfl hholds⟩
  by_contra hnone
  simp only [not_exists, not_and, not_not] at hnone
  exact Bool.noConfusion ((hexactly (Limits.allows_of_le (by decide))).mp hnone)

/-- The menu is lost for the name of the salon. -/
theorem own_details_not_lent :
    oneMenu.isObject = true ∧ (Source.value (namedRecord.get "config")).Holds .standard oneMenu ∧
      (∃ base, normalize .standard (.value (namedRecord.without "basic_info")) = .ok base ∧
        base.catalogue.categories.length = 1) ∧
      (∃ config, normalize .standard (.value namedRecord) = .ok config ∧
        config.catalogue.categories = []) ∧
      ¬ LendsDetails .standard namedRecord oneMenu := by
  have hnone : normalize .standard (.value namedRecord) = .ok _ := rfl
  refine ⟨rfl, ⟨_, held_value rfl, .refl _⟩, ⟨_, rfl, by decide +kernel⟩,
    ⟨_, hnone, by decide +kernel⟩, fun hlends => ?_⟩
  have hsome : normalize .standard (.value (namedRecord.without "basic_info")) = .ok _ := rfl
  rw [LendsDetails, hnone, hsome] at hlends
  have hsame := congrArg (fun config => config.catalogue.categories.length) (Except.ok.inj hlends)
  exact absurd hsame (by decide +kernel)

end SalonBooking
