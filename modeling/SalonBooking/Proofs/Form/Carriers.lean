import SalonBooking.Proofs.Data.Results
import SalonBooking.Proofs.Form.Texts
import SalonBooking.Proofs.Json.RoundTrip

/-!
# The carriers of a configuration

A configuration that has nothing of what only a record has is read in the same
way wherever it stands: by itself or in a record, and either of them as a value,
as a text or as bytes.  For a bare configuration the record is the
configuration itself, in a record it is the object around it; that this makes no
difference is `ofStored?_record`.

* `ofJson_congr`: the order of members does not matter.
* `normalize_of_holds`: nor does it matter how an object is carried.
* `carriers_alike`: a configuration by itself and in a record, with or without a
  name beside it.

These are laws about the outcome of `normalize`, the errors included: what one
carrier is refused for, an integer that the machine does not convert, all are.
-/

namespace SalonBooking

/-- An object without what only a record has beside its configuration. -/
structure Json.IsBare (c : Json) : Prop where
  isObject : c.isObject = true
  lacks : ∀ key ∈ ["config", "form_name", "line_settings", "business_rules"],
    c.hasMember key = false

/-- What a source holds: a complete configuration as it is stored, a value, or what a text or bytes
are read as. -/
def Source.held (limits : Limits) : Source → Except Json.ReadError Json
  | .config c => .ok c.toJson
  | .value (.str s) => Json.read limits s
  | .value v => .ok v
  | .bytes b => Json.readBytes limits b

/-- A source holds a value, up to the order of members. -/
def Source.Holds (limits : Limits) (source : Source) (v : Json) : Prop :=
  ∃ w, source.held limits = .ok w ∧ w.Same v

/-- The configuration with another name of the form, unless that is empty. -/
def FormConfig.named (config : FormConfig) (name : String) : FormConfig :=
  { config with basicInfo.formName := orText name config.basicInfo.formName }

variable {limits : Limits} {c v w : Json} {source : Source}

theorem Json.get_of_not_hasMember {key : String} (h : v.hasMember key = false) :
    v.get key = .null := by
  rw [hasMember, Assoc.contains, Option.isSome_eq_false_iff, Option.isNone_iff_eq_none] at h
  rw [get, h]
  rfl

theorem Json.IsBare.get (h : c.IsBare) {key : String}
    (hkey : key ∈ ["config", "form_name", "line_settings", "business_rules"]) : c.get key = .null :=
  get_of_not_hasMember (h.lacks key hkey)

/-! ## Values that are the same -/

/-- What two records that are the same have inside is the same, or neither can be read. -/
theorem inner_congr (h : v.Same w) :
    (∃ x y, StoredForm.inner limits v = .ok x ∧ StoredForm.inner limits w = .ok y ∧ x.Same y) ∨
      ∃ e, StoredForm.inner limits v = .error e ∧ StoredForm.inner limits w = .error e := by
  have hinside := h.get "config"
  rw [StoredForm.inner, StoredForm.inner]
  generalize v.get "config" = inside at hinside ⊢
  generalize w.get "config" = inside' at hinside ⊢
  cases hinside with
  | refl =>
    split
    · split
      · exact Or.inl ⟨_, _, rfl, rfl, .refl _⟩
      · exact Or.inr ⟨_, rfl, rfl⟩
      · exact Or.inl ⟨_, _, rfl, rfl, .refl _⟩
    · exact Or.inl ⟨_, _, rfl, rfl, .refl _⟩
  | arr items => exact Or.inl ⟨_, _, rfl, rfl, .arr items⟩
  | obj members => exact Or.inl ⟨_, _, rfl, rfl, .obj members⟩

/-- A form does not depend on the order of members. -/
theorem ofJson_congr (h : v.Same w) :
    (StoredForm.ofJson limits v).bind (FormConfig.ofStored? limits) =
      (StoredForm.ofJson limits w).bind (FormConfig.ofStored? limits) := by
  rw [StoredForm.ofJson, StoredForm.ofJson, h.isObject, h.kindName]
  split
  · rw [StoredForm.ofObject, StoredForm.ofObject, bind_map_eq, bind_map_eq]
    rcases inner_congr h with ⟨x, y, hx, hy, hxy⟩ | ⟨e, hv, hw⟩
    · rw [hx, hy]
      simp only [Except.bind, hxy.isObject, h.hasMember]
      split
      · exact FormConfig.ofStored?_congr ⟨hxy, h, h.get "ui_settings"⟩
      · exact FormConfig.ofStored?_congr ⟨h, h, .refl _⟩
    · rw [hv, hw]
      rfl
  · rfl

/-- What is no complete configuration yet is read by what it holds. -/
theorem ofSource_eq_ofText (h : ∀ c, source ≠ .config c) :
    StoredForm.ofSource limits source = StoredForm.ofText limits (source.held limits) := by
  cases source with
  | config c => exact absurd rfl (h c)
  | value v => cases v <;> rfl
  | bytes b => rfl

/-- An object is held as it is. -/
theorem held_value (h : v.isObject = true) : (Source.value v).held limits = .ok v := by
  cases v with
  | obj => rfl
  | _ => exact Bool.noConfusion h

/-- So it is read as it stands. -/
theorem normalize_of_isObject (h : v.isObject = true) :
    normalize limits (.value v) =
      (StoredForm.ofJson limits v).bind (FormConfig.ofStored? limits) := by
  cases v with
  | obj => rfl
  | _ => exact Bool.noConfusion h

/-! ## By itself and in a record -/

theorem normalize_bare (h : c.IsBare) :
    normalize limits (.value c) = FormConfig.ofStored? limits ⟨c, c, .null⟩ := by
  have hinner : StoredForm.inner limits c = .ok .null := by
    rw [StoredForm.inner, h.get (by decide)]
  rw [normalize_of_isObject h.isObject, StoredForm.ofJson, if_pos h.isObject, StoredForm.ofObject,
    hinner]
  rfl

/-- What a record has inside is found whether it is a value or a text. -/
theorem exists_inner {record : Json}
    (hinside : (Source.value (record.get "config")).Holds limits c) :
    ∃ v, StoredForm.inner limits record = .ok v ∧ v.Same c := by
  obtain ⟨v, hheld, hv⟩ := hinside
  refine ⟨v, ?_, hv⟩
  rw [StoredForm.inner]
  generalize record.get "config" = inside at hheld ⊢
  cases inside with
  | str s =>
    have hread : Json.read limits s = .ok v := hheld
    simp only [hread]
  | _ => exact congrArg Except.ok (Except.ok.inj hheld)

/-- A record without details of its own is read as the configuration inside. -/
theorem normalize_inside {record : Json} (hrecord : record.isObject = true)
    (hinside : (Source.value (record.get "config")).Holds limits c) (hc : c.isObject = true)
    (hbasic : record.hasMember "basic_info" = false) :
    normalize limits (.value record) =
      FormConfig.ofStored? limits ⟨c, record, record.get "ui_settings"⟩ := by
  obtain ⟨v, hinner, hv⟩ := exists_inner hinside
  have hsame : StoredForm.Same ⟨v, record, record.get "ui_settings"⟩
      ⟨c, record, record.get "ui_settings"⟩ := ⟨hv, .refl _, .refl _⟩
  rw [normalize_of_isObject hrecord, StoredForm.ofJson, if_pos hrecord, StoredForm.ofObject,
    bind_map_eq, hinner, ← FormConfig.ofStored?_congr hsame]
  simp only [Except.bind, hv.isObject, hc, hbasic]
  rfl

/-- What a record without the settings of an older one is read as. -/
theorem normalize_record_of {record : Json} (hc : c.IsBare) (hobject : record.isObject = true)
    (hinside : (Source.value (record.get "config")).Holds limits c)
    (hbasic : record.hasMember "basic_info" = false) (hui : record.get "ui_settings" = .null) :
    normalize limits (.value record) = FormConfig.ofStored? limits ⟨c, record, .null⟩ := by
  rw [normalize_inside hobject hinside hc.isObject hbasic, hui]

/-- A catalogue adds nothing to itself. -/
theorem Catalogue.ofJson_self (v : Json) : Catalogue.ofJson v v = Catalogue.ofJson .null v := by
  have hcross (u : Json) : Json.firstPresent [u, u] = Json.firstPresent [u, .null] := by
    cases u <;> rfl
  simp only [Catalogue.ofJson, hcross, storedCategories_self]
  rfl

/-- A record without settings of its own, but for a name of the form. -/
structure Json.HasNoSettings (record : Json) : Prop where
  menus : record.get "menu_structure" = .null
  line : record.get "line_settings" = .null
  rules : record.get "business_rules" = .null

section

variable {record : Json}

/-- Such a record adds nothing but its name to a bare configuration. -/
theorem ofStored_record (hc : c.IsBare) (hrecord : record.HasNoSettings) :
    FormConfig.ofStored ⟨c, record, .null⟩ =
      (FormConfig.ofStored ⟨c, c, .null⟩).named (record.get "form_name").asText := by
  have hname : c.get "form_name" = .null := hc.get (by decide)
  have hline : c.get "line_settings" = .null := hc.get (by decide)
  have hrules : c.get "business_rules" = .null := hc.get (by decide)
  simp only [FormConfig.named, FormConfig.ofStored, BasicInfo.ofStored, UiSettings.ofStored,
    hrecord.menus, hrecord.line, hrecord.rules, hname, hline, hrules, Catalogue.ofJson_self]
  rfl

theorem FormConfig.named_of_ne (config : FormConfig) {name : String} (h : name ≠ "") :
    config.named name = { config with basicInfo.formName := name } := by
  rw [named, orText_of_ne h]

/-- A record without a name either is read as the bare configuration. -/
theorem ofStored?_record (hc : c.IsBare) (hrecord : record.HasNoSettings)
    (hname : record.get "form_name" = .null) :
    FormConfig.ofStored? limits ⟨c, record, .null⟩ =
      FormConfig.ofStored? limits ⟨c, c, .null⟩ := by
  have hname' : c.get "form_name" = .null := hc.get (by decide)
  have hline : c.get "line_settings" = .null := hc.get (by decide)
  have hrules : c.get "business_rules" = .null := hc.get (by decide)
  have htexts : (⟨c, record, .null⟩ : StoredForm).texts = (⟨c, c, .null⟩ : StoredForm).texts := by
    simp only [StoredForm.texts, BasicInfo.texts, Catalogue.texts, storedCategories_self, hname,
      hname', hline, hrules, hrecord.menus, hrecord.line, hrecord.rules]
  have hstored := ofStored_record hc hrecord
  rw [hname] at hstored
  rw [FormConfig.ofStored?, FormConfig.ofStored?, htexts, hstored]
  rfl

/-- With a name it is read as the bare configuration with that name.  A name that is not empty even
spares a text. -/
theorem ofStored?_record_named (hc : c.IsBare) (hrecord : record.HasNoSettings) {name : String}
    (hname : record.get "form_name" = .str name) {config : FormConfig}
    (h : FormConfig.ofStored? limits ⟨c, c, .null⟩ = .ok config) :
    FormConfig.ofStored? limits ⟨c, record, .null⟩ = .ok (config.named name) := by
  have hname' : c.get "form_name" = .null := hc.get (by decide)
  have hline : c.get "line_settings" = .null := hc.get (by decide)
  have hrules : c.get "business_rules" = .null := hc.get (by decide)
  obtain ⟨htexts, rfl⟩ := FormConfig.ofStored?_eq_ok_iff.mp h
  have hstored := ofStored_record hc hrecord
  rw [hname] at hstored
  refine FormConfig.ofStored?_eq_ok_iff.mpr ⟨?_, hstored⟩
  have hspared (t : Json) (ht : t.hasText limits = true) (needed : Bool) :
      (itemIf needed t).all (Json.hasText limits) = true := by
    cases needed <;> simp [ht]
  have htaken : (Json.str name).hasText limits = true := rfl
  have hempty : Json.null.asText.isEmpty = true := rfl
  simp only [StoredForm.texts, BasicInfo.texts, Catalogue.texts, storedCategories_self, hname,
    hname', hline, hrules, hrecord.menus, hrecord.line, hrecord.rules, hempty, itemIf_true,
    List.all_append, List.all_cons, List.all_nil, Bool.and_eq_true] at htexts ⊢
  grind

end

theorem Json.isBare_toJson (config : FormConfig) : IsBare config.toJson where
  isObject := rfl
  lacks := by
    simp only [List.forall_mem_cons]
    exact ⟨rfl, rfl, rfl, rfl, List.forall_mem_nil _⟩

/-- It does not matter how an object is carried. -/
theorem normalize_of_holds (h : source.Holds limits v) (hobject : v.isObject = true) :
    normalize limits source = normalize limits (.value v) := by
  obtain ⟨w, hheld, hw⟩ := h
  rw [normalize_of_isObject hobject, ← ofJson_congr hw]
  cases source with
  | config c =>
    -- The record that is not there adds as little as the configuration itself.
    obtain rfl := Except.ok.inj hheld
    have hbare := Json.isBare_toJson c
    rw [← normalize_of_isObject hbare.isObject, normalize_bare hbare, normalize_config]
    exact @ofStored?_record _ _ (.obj []) hbare ⟨rfl, rfl, rfl⟩ rfl
  | value u =>
    rw [normalize, ofSource_eq_ofText fun c h => Source.noConfusion h, hheld, StoredForm.ofText]
  | bytes b =>
    rw [normalize, ofSource_eq_ofText fun c h => Source.noConfusion h, hheld, StoredForm.ofText]

/-- A bare configuration has the same outcome whether it comes by itself or in a record, each of
them as a value, a text or bytes, and whether it stands in the record as a value or a text.  A name
beside it in the record becomes the name of the form and changes nothing else.  The outcome is a
form if the machine converts the integers of the configuration. -/
theorem carriers_alike (limits : Limits) {c : Json} (hc : c.IsBare) :
    (∀ source : Source, source.Holds limits c →
      normalize limits source = normalize limits (.value c)) ∧
    (∀ inside, (Source.value inside).Holds limits c →
      (∀ source : Source, source.Holds limits (.obj [("config", inside)]) →
        normalize limits source = normalize limits (.value c)) ∧
      ∀ config, normalize limits (.value c) = .ok config →
        ∀ name, name ≠ "" → ∀ source : Source,
          source.Holds limits (.obj [("config", inside), ("form_name", .str name)]) →
          normalize limits source = .ok { config with basicInfo.formName := name }) ∧
    (c.fits limits = true → ∃ config, normalize limits (.value c) = .ok config) := by
  refine ⟨fun source h => normalize_of_holds h hc.isObject,
    fun inside hinside => ⟨fun source h => ?_,
    fun config hconfig name hname source h => ?_⟩, fun hfits => ?_⟩
  · rw [normalize_of_holds h rfl,
      @normalize_record_of _ c (.obj [("config", inside)]) hc rfl hinside rfl rfl,
      ofStored?_record hc ⟨rfl, rfl, rfl⟩ rfl, normalize_bare hc]
  · rw [normalize_bare hc] at hconfig
    rw [normalize_of_holds h rfl,
      @normalize_record_of _ c (.obj [("config", inside), ("form_name", .str name)]) hc rfl hinside
        rfl rfl,
      @ofStored?_record_named _ c _ hc ⟨rfl, rfl, rfl⟩ name rfl _ hconfig,
      FormConfig.named_of_ne _ hname]
  · rw [normalize_bare hc]
    exact ⟨_, FormConfig.ofStored?_of_fits hfits hfits⟩

/-- A configuration with an empty list of categories, one setting of its calendar, and a section
that is no object. -/
def partialConfig : Json :=
  .obj [("menu_structure", .obj [("categories", .arr [])]),
    ("calendar_settings", .obj [("booking_mode", .str "multiple_dates")]), ("ui_settings", .arr [])]

/-- Its text. -/
def partialConfigText : String :=
  "\x7b\"menu_structure\":\x7b\"categories\":[]\x7d," ++
    "\"calendar_settings\":\x7b\"booking_mode\":\"multiple_dates\"\x7d,\"ui_settings\":[]\x7d"

theorem carriers_alike_partialConfig :
    Json.read .standard partialConfigText = .ok partialConfig ∧
      ∃ config, normalize .standard (.value partialConfig) = .ok config ∧
        config.schedule.mode = .multipleDates ∧
        normalize .standard (.value (.str partialConfigText)) = .ok config ∧
        normalize .standard (.value (.obj [("config", partialConfig)])) = .ok config ∧
        normalize .standard (.value (.obj [("config", .str partialConfigText)])) = .ok config ∧
        normalize .standard (.value (.obj [("config", partialConfig), ("form_name", .str "予約")])) =
          .ok { config with basicInfo.formName := "予約" } := by
  have hread : Json.read .standard partialConfigText = .ok partialConfig := by
    have hreadable : partialConfig.IsReadable Limits.standard.nesting :=
      ⟨by simp [partialConfig, Json.IsPlain, Json.ArePlain, Json.MembersArePlain, Assoc.keys],
        by decide, by decide⟩
    have hembed : partialConfig.embed = partialConfigText := by decide +kernel
    rw [← hembed]
    exact hreadable.read_embed
  have hbare : partialConfig.IsBare := ⟨rfl, by decide⟩
  have hself (v : Json) (hv : v.isObject = true) : (Source.value v).Holds .standard v :=
    ⟨v, held_value hv, .refl v⟩
  have htext : (Source.value (.str partialConfigText)).Holds .standard partialConfig :=
    ⟨_, hread, .refl _⟩
  have hconfig : normalize .standard (.value partialConfig) =
      .ok (FormConfig.ofStored ⟨partialConfig, partialConfig, .null⟩) := rfl
  obtain ⟨hcarried, hinside, -⟩ := carriers_alike .standard hbare
  refine ⟨hread, _, hconfig, by decide +kernel, ?_, ?_, ?_, ?_⟩
  · rw [hcarried _ htext, hconfig]
  · rw [(hinside _ (hself _ rfl)).1 _ (hself _ rfl), hconfig]
  · rw [(hinside _ htext).1 _ (hself _ rfl), hconfig]
  · exact (hinside _ (hself _ rfl)).2 _ hconfig "予約" (by decide) _ (hself _ rfl)

end SalonBooking
