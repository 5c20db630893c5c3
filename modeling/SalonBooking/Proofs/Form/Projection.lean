import SalonBooking.Proofs.Form.Embedded
import SalonBooking.Proofs.Form.Stored
import SalonBooking.Proofs.Form.Texts

/-!
# Completing what is complete

What `normalize` makes of a source needs no second completion: whichever way a
complete configuration is carried back to it, the same configuration comes out.
It may come as it is, as the value or the text that it is stored as, or inside
a record, and its members may have changed their order on the way.

`normalize_of_complete` lists the carriers.  A carrier only decides which
record stands around the configuration; that the configuration itself is read
back is `FormConfig.ofStored_toJson`, and `texts_toJson` that no machine refuses
one of its texts.
-/

namespace SalonBooking

variable {limits : Limits} {config : FormConfig} {v : Json}

/-! ## The records around a configuration -/

theorem addsNothing_nil (config : FormConfig) : AddsNothing (.obj []) config :=
  ⟨rfl, rfl, Or.inl rfl⟩

/-- A bare configuration is its own record. -/
theorem addsNothing_toJson (config : FormConfig) : AddsNothing config.toJson config :=
  ⟨rfl, rfl, Or.inr rfl⟩

theorem addsNothing_record (config : FormConfig) (v : Json) :
    AddsNothing (.obj [("config", v)]) config :=
  ⟨rfl, rfl, Or.inl rfl⟩

/-- A stored configuration is no text, so it is taken as a value at once. -/
theorem ofSource_value (h : v.Same config.toJson) :
    StoredForm.ofSource limits (.value v) = StoredForm.ofJson limits v := by
  obtain ⟨ms, rfl⟩ := h.exists_eq_obj
  rfl

/-- A stored configuration has no configuration inside and is therefore taken as bare. -/
theorem ofJson_bare (h : v.Same config.toJson) :
    StoredForm.ofJson limits v = .ok ⟨v, v, .null⟩ := by
  have hobject : v.isObject = true := h.isObject.trans rfl
  have hinside : v.get "config" = .null := (h.get "config").eq_null
  have hinner : StoredForm.inner limits v = .ok .null := by
    rw [StoredForm.inner, hinside]
  rw [StoredForm.ofJson, if_pos hobject, StoredForm.ofObject, hinner]
  rfl

/-- A record with nothing but a stored configuration, as a value or as a text. -/
theorem ofSource_record {inside : Json}
    (hinner : StoredForm.inner limits (.obj [("config", inside)]) = .ok v)
    (h : v.Same config.toJson) :
    StoredForm.ofSource limits (.value (.obj [("config", inside)])) =
      .ok ⟨v, .obj [("config", inside)], .null⟩ := by
  have hobject : v.isObject = true := h.isObject.trans rfl
  show StoredForm.ofObject limits (.obj [("config", inside)]) = _
  rw [StoredForm.ofObject, hinner]
  show Except.ok (if v.isObject && true then _ else _) = _
  rw [hobject]
  rfl

/-! ## The texts of a stored configuration -/

/-- A record that adds nothing adds no text either. -/
theorem texts_toJson {record : Json} (hrecord : AddsNothing record config) (recordUi : Json) :
    (⟨config.toJson, record, recordUi⟩ : StoredForm).texts =
      (⟨config.toJson, .obj [], .null⟩ : StoredForm).texts := by
  have hcatalogue : Catalogue.texts (record.get "menu_structure") config.catalogue.toJson =
      Catalogue.texts .null config.catalogue.toJson := by
    rcases hrecord.menus with hmenus | hmenus
    · rw [hmenus]
    · rw [hmenus, Catalogue.texts, storedCategories_self, Catalogue.texts]
  have hmenus : config.toJson.get "menu_structure" = config.catalogue.toJson := rfl
  simp only [StoredForm.texts, BasicInfo.texts, hrecord.formName, hrecord.lineSettings, hmenus,
    hcatalogue]
  rfl

theorem fits_toJson (hconfig : config.WellFormed) : config.toJson.fits limits = true :=
  (FormConfig.isReadable_toJson hconfig 0).fits limits

/-- So every machine reads a stored configuration back from such a record. -/
theorem ofStored?_toJson (hconfig : config.WellFormed) {record : Json}
    (hrecord : AddsNothing record config) (recordUi : Json) :
    FormConfig.ofStored? limits ⟨config.toJson, record, recordUi⟩ = .ok config := by
  rw [FormConfig.ofStored?_eq_ok_iff, texts_toJson hrecord]
  exact ⟨StoredForm.all_hasText (fits_toJson hconfig) (Limits.allows_of_le (Nat.zero_le _)),
    FormConfig.ofStored_toJson hconfig hrecord recordUi⟩

/-! ## Carriers -/

theorem ofStored?_bare (hconfig : config.WellFormed) (h : v.Same config.toJson) :
    FormConfig.ofStored? limits ⟨v, v, .null⟩ = .ok config := by
  have hsame : StoredForm.Same ⟨v, v, .null⟩ ⟨config.toJson, config.toJson, .null⟩ :=
    ⟨h, h, .refl _⟩
  rw [FormConfig.ofStored?_congr hsame, ofStored?_toJson hconfig (addsNothing_toJson config)]

theorem normalize_value (hconfig : config.WellFormed) (h : v.Same config.toJson) :
    normalize limits (.value v) = .ok config := by
  rw [normalize, ofSource_value h, ofJson_bare h]
  exact ofStored?_bare hconfig h

/-- Stored configurations differ where the configurations do. -/
theorem FormConfig.toJson_injective {config' : FormConfig} (hconfig : config.WellFormed)
    (hconfig' : config'.WellFormed) (h : config.toJson = config'.toJson) : config = config' := by
  have hback := @normalize_value .standard _ _ hconfig (.refl _)
  rw [h, normalize_value hconfig' (.refl _)] at hback
  exact (Except.ok.inj hback).symm

theorem normalize_record (hconfig : config.WellFormed) {inside : Json}
    (hinner : StoredForm.inner limits (.obj [("config", inside)]) = .ok v)
    (h : v.Same config.toJson) :
    normalize limits (.value (.obj [("config", inside)])) = .ok config := by
  have hsame : StoredForm.Same ⟨v, .obj [("config", inside)], .null⟩
      ⟨config.toJson, .obj [("config", inside)], .null⟩ :=
    ⟨h, .refl _, .refl _⟩
  rw [normalize, ofSource_record hinner h]
  show FormConfig.ofStored? limits ⟨v, .obj [("config", inside)], .null⟩ = _
  rw [FormConfig.ofStored?_congr hsame,
    ofStored?_toJson hconfig (addsNothing_record config inside)]

/-- What a record has as its configuration, if that is an object already. -/
theorem inner_value (h : v.Same config.toJson) :
    StoredForm.inner limits (.obj [("config", v)]) = .ok v := by
  obtain ⟨ms, rfl⟩ := h.exists_eq_obj
  rfl

theorem inner_text {t : String} (h : Json.read limits t = .ok v) :
    StoredForm.inner limits (.obj [("config", .str t)]) = .ok v := by
  have hinside : (Json.obj [("config", .str t)]).get "config" = .str t := rfl
  rw [StoredForm.inner, hinside]
  simp only [h]

theorem normalize_text (hconfig : config.WellFormed) {t : String}
    (ht : Json.read limits t = .ok v) (h : v.Same config.toJson) :
    normalize limits (.value (.str t)) = .ok config := by
  rw [normalize, StoredForm.ofSource, ht, StoredForm.ofText, ofJson_bare h]
  exact ofStored?_bare hconfig h

theorem normalize_bytes (hconfig : config.WellFormed) {b : ByteArray}
    (hb : Json.readBytes limits b = .ok v) (h : v.Same config.toJson) :
    normalize limits (.bytes b) = .ok config := by
  rw [normalize, StoredForm.ofSource, hb, StoredForm.ofText, ofJson_bare h]
  exact ofStored?_bare hconfig h

/-- A complete configuration comes back unchanged from every carrier: as itself, as a value, a
text or bytes that hold it, and as a record with such a value or text. -/
theorem normalize_of_complete {limits : Limits} {source : Source} {config : FormConfig}
    (h : normalize limits source = .ok config) :
    normalize limits (.config config) = .ok config ∧
    (∀ v : Json, v.Same config.toJson →
      normalize limits (.value v) = .ok config ∧
      normalize limits (.value (.obj [("config", v)])) = .ok config) ∧
    (∀ (t : String) (v : Json), Json.read limits t = .ok v → v.Same config.toJson →
      normalize limits (.value (.str t)) = .ok config ∧
      normalize limits (.value (.obj [("config", .str t)])) = .ok config) ∧
    ∀ (b : ByteArray) (v : Json), Json.readBytes limits b = .ok v → v.Same config.toJson →
      normalize limits (.bytes b) = .ok config := by
  have hconfig := wellFormed_of_normalize h
  refine ⟨?_, ?_, ?_, ?_⟩
  · rw [normalize_config]
    exact ofStored?_toJson hconfig (addsNothing_nil config) .null
  · intro v hv
    exact ⟨normalize_value hconfig hv, normalize_record hconfig (inner_value hv) hv⟩
  · intro t v ht hv
    exact ⟨normalize_text hconfig ht hv, normalize_record hconfig (inner_text ht) hv⟩
  · intro b v hb hv
    exact normalize_bytes hconfig hb hv

/-- A record of an older editor: the name of the form and the days ahead stand outside of its
configuration, ids are missing, and a price is a text with a fraction. -/
def olderRecord : Json :=
  .obj [("form_name", .str "予約"), ("business_rules", .obj [("advance_booking_days", .int 14)]),
    ("config", .obj [
      ("menu_structure", .obj [("categories", .arr [
        .obj [("menus", .arr [.obj [("price", .str "3000.7")]])]])]),
      ("custom_fields", .arr [.obj [("type", .str "text")]])])]

theorem normalize_olderRecord :
    ∃ config, normalize .standard (.value olderRecord) = .ok config ∧
      config.basicInfo.formName = "予約" ∧ config.schedule.advanceDays = 14 ∧
      config.catalogue.categories.map Category.id = ["category-0"] ∧
      Json.read .standard config.toJson.embed = .ok config.toJson ∧
      normalize .standard (.config config) = .ok config ∧
      normalize .standard (.value config.toJson) = .ok config ∧
      normalize .standard (.value (.str config.toJson.embed)) = .ok config ∧
      normalize .standard (.value (.obj [("config", .str config.toJson.embed)])) =
        .ok config := by
  have hrecord : normalize .standard (.value olderRecord) = .ok _ := rfl
  have hreadable := FormConfig.isReadable_toJson (wellFormed_of_normalize hrecord) 982
  have hread := @Json.IsReadable.read_embed _ .standard hreadable
  obtain ⟨hitself, hvalue, htext, -⟩ := normalize_of_complete hrecord
  refine ⟨_, hrecord, by decide +kernel, by decide +kernel, by decide +kernel, hread, hitself, ?_⟩
  exact ⟨(hvalue _ (.refl _)).1, htext _ _ hread (.refl _)⟩

end SalonBooking
