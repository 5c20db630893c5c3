import SalonBooking.Booking.Selection
import SalonBooking.Proofs.Data.Assoc
import SalonBooking.Proofs.Json.Parts

/-!
# Reading what was posted

Any value may be posted as a selection, with any value under each name.  What is
of another kind than it should be counts as not there, with one exception: a
value under `alternates` from which no list can be cut is not read at all.  Nor
is one in which a wish has an integer that the machine does not convert.

What is read is tidy.  Entries are read one after the other, and the first entry
of a menu is the one that counts.

* `readAlternates_eq_malformed_iff`, `readAlternates_eq_integerTooLong_iff`: the further
  wishes that are not read.
* `IsTidy.addEntry`, `IsTidy.foldl_addEntry`: the entries leave a tidy selection,
  one by one and together.
* `optionsOf_foldl_addEntry`: the options are those of the first entry of a menu.
* `exists_ofJson_iff`, `isTidy_of_ofJson`, `optionsOf_of_ofJson`: the same for a
  whole selection.
-/

namespace SalonBooking

/-! ## Maps under some ids -/

namespace Assoc

variable {α : Type} {fits : α → Prop} {ids : List String} {entries : Assoc String α}

/-- A map has keys from a list only, each of them once, and its values fit. -/
structure IsUnder (ids : List String) (fits : α → Prop) (entries : Assoc String α) : Prop where
  nodup : entries.keys.Nodup
  key_mem : ∀ entry ∈ entries, entry.1 ∈ ids
  value_fits : ∀ entry ∈ entries, fits entry.2

theorem IsUnder.nil (ids : List String) (fits : α → Prop) : IsUnder ids fits [] :=
  ⟨List.nodup_nil, nofun, nofun⟩

theorem IsUnder.notMem_keys (h : IsUnder ids fits entries) {key : String} (hnew : key ∉ ids) :
    key ∉ entries.keys := by
  intro hkey
  obtain ⟨entry, hentry, rfl⟩ := List.mem_map.mp hkey
  exact hnew (h.key_mem entry hentry)

theorem IsUnder.get?_eq_none (h : IsUnder ids fits entries) {key : String} (hnew : key ∉ ids) :
    entries.get? key = none :=
  get?_eq_none_of_notMem (h.notMem_keys hnew)

/-- One more id takes nothing away. -/
theorem IsUnder.concat (h : IsUnder ids fits entries) (key : String) :
    IsUnder (ids ++ [key]) fits entries :=
  ⟨h.nodup, fun entry hentry => List.mem_append_left _ (h.key_mem entry hentry), h.value_fits⟩

/-- A value goes under a new id. -/
theorem IsUnder.set_concat (h : IsUnder ids fits entries) {key : String} (hnew : key ∉ ids)
    {value : α} (hvalue : fits value) : IsUnder (ids ++ [key]) fits (set key value entries) := by
  have hkey := h.notMem_keys hnew
  constructor
  · rw [set_of_notMem hkey, keys, List.map_append]
    exact h.nodup.append (List.nodup_singleton key) (List.disjoint_singleton.mpr hkey)
  · intro entry hentry
    rcases mem_set hentry with rfl | hold
    · exact List.mem_append_right _ (List.mem_singleton_self _)
    · exact List.mem_append_left _ (h.key_mem entry hold)
  · intro entry hentry
    rcases mem_set hentry with rfl | hold
    · exact hvalue
    · exact h.value_fits entry hold

end Assoc

/-! ## Further wishes -/

/-- The values from which no list can be cut: true, a number other than zero, and an object with
members. -/
inductive Json.IsUncuttable : Json → Prop
  | yes : IsUncuttable (.bool true)
  | int {n : Int} (hn : n ≠ 0) : IsUncuttable (.int n)
  | float {x : Binary64} (hx : x.isZero = false) : IsUncuttable (.float x)
  | obj {ms : List (String × Json)} (hms : ms ≠ []) : IsUncuttable (.obj ms)

/-- A list in which the second or third wish has an integer that the machine does not convert. -/
def Json.HasOverlongWish (limits : Limits) (v : Json) : Prop :=
  ∃ wish ∈ (v.items.take 2).filter isObject, DesiredTime.hasTexts limits wish = false

/-- There is none where all integers fit the machine. -/
theorem Json.not_hasOverlongWish {limits : Limits} {v : Json} (h : v.fits limits = true) :
    ¬ v.HasOverlongWish limits := by
  rintro ⟨wish, hwish, hlong⟩
  have hfits := fits_of_mem_items h (List.mem_of_mem_take (List.mem_filter.mp hwish).1)
  rw [DesiredTime.hasTexts, fits_get hfits, fits_get hfits] at hlong
  cases hlong

namespace Selection

variable {limits : Limits} {sel : Selection} {v entry : Json} {menuId : String}

theorem readAlternates_eq_malformed_iff :
    readAlternates limits v = .error .malformedAlternates ↔ v.IsUncuttable := by
  constructor
  · intro h
    cases v with
    | null => cases h
    | bool b =>
      cases b with
      | false => cases h
      | true => exact .yes
    | int n =>
      refine .int ?_
      rintro rfl
      cases h
    | float x =>
      refine .float ?_
      by_contra hx
      simp [readAlternates, Json.isTruthy, hx] at h
    | str s => cases h
    | arr vs =>
      rw [readAlternates] at h
      split at h <;> cases h
    | obj ms =>
      refine .obj ?_
      rintro rfl
      cases h
  · intro h
    cases h with
    | yes => rfl
    | int hn => simp [readAlternates, Json.isTruthy, hn]
    | float hx => simp [readAlternates, Json.isTruthy, hx]
    | obj hms => simp [readAlternates, Json.isTruthy, hms]

theorem readAlternates_eq_integerTooLong_iff :
    readAlternates limits v = .error .integerTooLong ↔ v.HasOverlongWish limits := by
  have hnone (hitems : v.items = []) : ¬ v.HasOverlongWish limits := by
    rintro ⟨wish, hwish, -⟩
    rw [hitems] at hwish
    cases hwish
  cases v with
  | arr vs =>
    rw [readAlternates, Json.HasOverlongWish]
    simp only [Json.items]
    split
    · rename_i hall
      refine iff_of_false (by simp) ?_
      rintro ⟨wish, hwish, hlong⟩
      rw [List.all_eq_true.mp hall wish hwish] at hlong
      cases hlong
    · rename_i hall
      refine iff_of_true rfl ?_
      simpa only [Bool.not_eq_true] using List.all_eq_false.mp (Bool.not_eq_true _ ▸ hall)
  | str s => exact iff_of_false (by simp [readAlternates]) (hnone rfl)
  | _ =>
    refine iff_of_false (fun h => ?_) (hnone rfl)
    simp only [readAlternates] at h
    split at h <;> cases h

/-- All other wishes are read. -/
theorem exists_readAlternates_iff :
    (∃ wishes, readAlternates limits v = .ok wishes) ↔
      ¬ v.IsUncuttable ∧ ¬ v.HasOverlongWish limits := by
  rw [← @readAlternates_eq_malformed_iff limits, ← readAlternates_eq_integerTooLong_iff]
  cases readAlternates limits v with
  | ok wishes => simp
  | error e => cases e <;> simp

theorem length_readAlternates {wishes : List DesiredTime}
    (h : readAlternates limits v = .ok wishes) : wishes.length ≤ 2 := by
  simp only [readAlternates] at h
  split at h
  · rename_i vs
    split at h
    · obtain rfl := Except.ok.inj h
      calc (((vs.take 2).filter Json.isObject).map DesiredTime.ofJson).length
          = ((vs.take 2).filter Json.isObject).length := List.length_map _
        _ ≤ (vs.take 2).length := List.length_filter_le _ _
        _ ≤ 2 := List.length_take_le 2 vs
    · cases h
  · obtain rfl := Except.ok.inj h
    exact Nat.zero_le 2
  · split at h
    · cases h
    · obtain rfl := Except.ok.inj h
      exact Nat.zero_le 2

/-! ## Entries -/

/-- The menus are different ones with an id, items and options stand under them only and are not
empty, and there are two further wishes at most. -/
structure IsTidy (sel : Selection) : Prop where
  nodup : sel.menuIds.Nodup
  menuId_ne : ∀ id ∈ sel.menuIds, id ≠ ""
  items : Assoc.IsUnder sel.menuIds (· ≠ "") sel.submenuIds
  options : Assoc.IsUnder sel.menuIds (· ≠ []) sel.selectedOptions
  alternates : sel.alternates.length ≤ 2

namespace IsTidy

theorem empty : Selection.empty.IsTidy :=
  ⟨List.nodup_nil, nofun, .nil _ _, .nil _ _, Nat.zero_le 2⟩

theorem optionsOf_of_notMem (h : sel.IsTidy) (hnew : menuId ∉ sel.menuIds) :
    sel.optionsOf menuId = [] := by
  rw [optionsOf, h.options.get?_eq_none hnew]
  rfl

/-- An entry leaves a tidy selection. -/
theorem addEntry (h : sel.IsTidy) (entry : Json) : (sel.addEntry entry).IsTidy := by
  rw [Selection.addEntry]
  split
  · exact h
  · rename_i hadded
    rw [Bool.or_eq_true, not_or] at hadded
    obtain ⟨hne, hnew⟩ := hadded
    rw [String.isEmpty_iff] at hne
    rw [List.contains_iff_mem] at hnew
    refine ⟨?nodup, ?ids, ?items, ?options, h.alternates⟩
    case nodup =>
      exact h.nodup.append (List.nodup_singleton _) (List.disjoint_singleton.mpr hnew)
    case ids =>
      intro id hid
      rcases List.mem_append.mp hid with hold | hlast
      · exact h.menuId_ne id hold
      · exact List.mem_singleton.mp hlast ▸ hne
    case items =>
      dsimp only
      split
      · exact h.items.concat _
      · rename_i hitem
        exact h.items.set_concat hnew (mt String.isEmpty_iff.mpr hitem)
    case options =>
      dsimp only
      split
      · exact h.options.concat _
      · rename_i hoptions
        exact h.options.set_concat hnew (mt List.isEmpty_iff.mpr hoptions)

/-- So do all entries. -/
theorem foldl_addEntry (h : sel.IsTidy) (entries : List Json) :
    (entries.foldl Selection.addEntry sel).IsTidy := by
  induction entries generalizing sel with
  | nil => exact h
  | cons entry rest ih => exact ih (h.addEntry entry)

end IsTidy

/-- The ids of the options in an entry. -/
def postedOptions (entry : Json) : List String := strings (entry.get "option_ids")

/-- The first entry of a menu. -/
def entryFor? (menuId : String) (entries : List Json) : Option Json :=
  entries.find? fun entry => textMember entry "menu_id" == menuId

theorem mem_menuIds_addEntry (hne : menuId ≠ "") : menuId ∈ (sel.addEntry entry).menuIds ↔
    menuId ∈ sel.menuIds ∨ textMember entry "menu_id" = menuId := by
  rw [addEntry]
  split
  · rename_i hskipped
    rw [Bool.or_eq_true, String.isEmpty_iff, List.contains_iff_mem] at hskipped
    constructor
    · exact Or.inl
    · rintro (hmem | rfl)
      · exact hmem
      · exact hskipped.resolve_left hne
  · rw [List.mem_append, List.mem_singleton, eq_comm]

/-- An entry brings in its options if its menu is a new one. -/
theorem optionsOf_addEntry (h : sel.IsTidy) (hne : menuId ≠ "") :
    (sel.addEntry entry).optionsOf menuId =
      if menuId ∉ sel.menuIds ∧ textMember entry "menu_id" = menuId then postedOptions entry
      else sel.optionsOf menuId := by
  rw [addEntry]
  split
  · rename_i hskipped
    rw [Bool.or_eq_true, String.isEmpty_iff, List.contains_iff_mem] at hskipped
    rw [if_neg]
    rintro ⟨hnew, rfl⟩
    exact hnew (hskipped.resolve_left hne)
  · rename_i hadded
    rw [Bool.or_eq_true, not_or, List.contains_iff_mem] at hadded
    by_cases hmenu : textMember entry "menu_id" = menuId
    · subst hmenu
      have hchosen : textMember entry "menu_id" ∉ sel.menuIds ∧
          textMember entry "menu_id" = textMember entry "menu_id" := ⟨hadded.2, rfl⟩
      rw [if_pos hchosen, postedOptions, optionsOf]
      dsimp only
      split
      · rename_i hempty
        rw [h.options.get?_eq_none hadded.2, List.isEmpty_iff.mp hempty]
        rfl
      · rw [Assoc.get?_set_self]
        rfl
    · have hother : ¬ (menuId ∉ sel.menuIds ∧ textMember entry "menu_id" = menuId) :=
        fun hboth => hmenu hboth.2
      rw [if_neg hother, optionsOf]
      dsimp only
      split
      · rfl
      · rw [Assoc.get?_set_of_ne (Ne.symm hmenu)]
        rfl

/-- The options of a menu are those of its first entry. -/
theorem optionsOf_foldl_addEntry (h : sel.IsTidy) (hne : menuId ≠ "") (entries : List Json) :
    (entries.foldl addEntry sel).optionsOf menuId =
      if menuId ∈ sel.menuIds then sel.optionsOf menuId
      else ((entryFor? menuId entries).map postedOptions).getD [] := by
  induction entries generalizing sel with
  | nil =>
    split
    · rfl
    · rename_i hnew
      exact h.optionsOf_of_notMem hnew
  | cons entry rest ih =>
    rw [List.foldl_cons, ih (h.addEntry entry), optionsOf_addEntry h hne]
    by_cases hold : menuId ∈ sel.menuIds
    · rw [if_pos ((mem_menuIds_addEntry hne).mpr (Or.inl hold)), if_neg fun hboth => hboth.1 hold,
        if_pos hold]
    · rw [if_neg hold]
      by_cases hmenu : textMember entry "menu_id" = menuId
      · rw [if_pos ((mem_menuIds_addEntry hne).mpr (Or.inr hmenu)), if_pos ⟨hold, hmenu⟩,
          entryFor?, List.find?_cons_of_pos (by simpa using hmenu)]
        rfl
      · have hstill : menuId ∉ (sel.addEntry entry).menuIds := fun hmem =>
          ((mem_menuIds_addEntry hne).mp hmem).elim hold hmenu
        rw [if_neg hstill, entryFor?, entryFor?,
          List.find?_cons_of_neg (by simpa using hmenu)]

/-! ## Whole selections -/

/-- The texts of a selection, under the names under which they are posted. -/
def texts (sel : Selection) : List (String × String) :=
  [("name", sel.name), ("phone", sel.phone), ("gender", sel.gender),
    ("visit_count", sel.visitCount), ("coupon", sel.coupon), ("date", sel.desired.date),
    ("time", sel.desired.time), ("message", sel.message)]

/-- A member is read as a text if it is one, and as the empty text otherwise. -/
theorem eq_textMember_iff {key s : String} : s = textMember v key ↔
    v.get key = .str s ∨ s = "" ∧ ∀ t, v.get key ≠ .str t := by
  rw [textMember]
  cases v.get key <;> simp [Json.text?, eq_comm]

/-- What is read of a selection is what its entries leave, and its texts and further wishes. -/
theorem ofJson_eq_ok_iff : ofJson limits v = .ok sel ↔
    ∃ alternates, readAlternates limits (v.get "alternates") = .ok alternates ∧
      sel = { (entries v).foldl addEntry .empty with
        name := textMember v "name"
        phone := textMember v "phone"
        gender := textMember v "gender"
        visitCount := textMember v "visit_count"
        coupon := textMember v "coupon"
        customFields := (v.get "custom_fields").members
        desired := ⟨textMember v "date", textMember v "time"⟩
        alternates := alternates
        message := textMember v "message" } := by
  rw [ofJson]
  cases readAlternates limits (v.get "alternates") with
  | error e => exact ⟨nofun, fun ⟨_, h, _⟩ => nomatch h⟩
  | ok alternates =>
    constructor
    · intro h
      exact ⟨alternates, rfl, (Except.ok.inj h).symm⟩
    · rintro ⟨_, h, rfl⟩
      obtain rfl := Except.ok.inj h
      rfl

/-- Everything is read but a selection whose further wishes are no list or have an integer that the
machine does not convert. -/
theorem exists_ofJson_iff : (∃ sel, ofJson limits v = .ok sel) ↔
    ¬ (v.get "alternates").IsUncuttable ∧ ¬ (v.get "alternates").HasOverlongWish limits := by
  rw [← exists_readAlternates_iff]
  constructor
  · rintro ⟨sel, h⟩
    obtain ⟨wishes, hread, -⟩ := ofJson_eq_ok_iff.mp h
    exact ⟨wishes, hread⟩
  · rintro ⟨wishes, hread⟩
    exact ⟨_, ofJson_eq_ok_iff.mpr ⟨wishes, hread, rfl⟩⟩

theorem isTidy_of_ofJson (h : ofJson limits v = .ok sel) : sel.IsTidy := by
  obtain ⟨alternates, hread, rfl⟩ := ofJson_eq_ok_iff.mp h
  have hentries := IsTidy.empty.foldl_addEntry (entries v)
  exact ⟨hentries.nodup, hentries.menuId_ne, hentries.items, hentries.options,
    length_readAlternates hread⟩

theorem texts_of_ofJson (h : ofJson limits v = .ok sel) :
    ∀ posted ∈ sel.texts, posted.2 = textMember v posted.1 := by
  obtain ⟨alternates, -, rfl⟩ := ofJson_eq_ok_iff.mp h
  simp [texts]

/-- The options of a menu are those of its first entry. -/
theorem optionsOf_of_ofJson (h : ofJson limits v = .ok sel) (hne : menuId ≠ "") :
    sel.optionsOf menuId = ((entryFor? menuId (entries v)).map postedOptions).getD [] := by
  obtain ⟨alternates, -, rfl⟩ := ofJson_eq_ok_iff.mp h
  exact optionsOf_foldl_addEntry .empty hne (entries v)

end Selection

end SalonBooking
