import Mathlib.Data.List.Nodup
import SalonBooking.Data.Assoc

/-!
# Entries of association lists

What look-ups say about the entries of a map, and which entries a change of the
map brings in or leaves.

* `mem_of_get?`: what is found is an entry.
* `mem_set`, `mem_erase`: the entries after a change.
* `erase_of_notMem`, `erase_set`: what is left without a key.
* `set_of_notMem`, `set_set`: what a setting makes of a new key, and of one just set.
* `ofPairs_of_nodup`: settings without a repeated key are the map that they make.
-/

namespace SalonBooking.Assoc

variable {κ α : Type} [DecidableEq κ]

/-! ## Look-ups -/

theorem mem_of_get? {key : κ} {value : α} {entries : Assoc κ α}
    (h : entries.get? key = some value) : (key, value) ∈ entries := by
  induction entries with
  | nil => simp at h
  | cons entry rest ih =>
    obtain ⟨k, v⟩ := entry
    rw [get?_cons] at h
    split at h
    · rename_i hk
      rw [hk, Option.some.inj h]
      exact List.mem_cons_self
    · exact List.mem_cons_of_mem _ (ih h)

theorem get?_eq_none_of_notMem {key : κ} {entries : Assoc κ α} (h : key ∉ entries.keys) :
    entries.get? key = none := by
  cases hget : entries.get? key with
  | none => rfl
  | some value => exact absurd (List.mem_map.mpr ⟨_, mem_of_get? hget, rfl⟩) h

/-- What is done to all values is done to the one that is found. -/
theorem get?_map {β : Type} (f : α → β) (key : κ) (entries : Assoc κ α) :
    get? key (entries.map fun entry => (entry.1, f entry.2)) = (entries.get? key).map f := by
  induction entries with
  | nil => rfl
  | cons entry rest ih =>
    obtain ⟨k, v⟩ := entry
    rw [List.map_cons, get?_cons, get?_cons, ih]
    split <;> rfl

/-- A map in which nothing is found is empty. -/
theorem eq_nil_of_get?_eq_none {entries : Assoc κ α} (h : ∀ key, entries.get? key = none) :
    entries = [] := by
  cases entries with
  | nil => rfl
  | cons entry rest =>
    obtain ⟨key, value⟩ := entry
    have hfound := h key
    rw [get?_cons, if_pos rfl] at hfound
    exact absurd hfound (Option.some_ne_none value)

/-! ## Changes -/

/-- Setting a key brings in its new entry and no other. -/
theorem mem_set {key : κ} {value : α} {entries : Assoc κ α} {entry : κ × α}
    (h : entry ∈ set key value entries) : entry = (key, value) ∨ entry ∈ entries := by
  induction entries with
  | nil => exact Or.inl (List.mem_singleton.mp h)
  | cons first rest ih =>
    obtain ⟨k, v⟩ := first
    simp only [set] at h
    split at h
    · rename_i hk
      rcases List.mem_cons.mp h with rfl | hrest
      · exact Or.inl (by rw [hk])
      · exact Or.inr (List.mem_cons_of_mem _ hrest)
    · rcases List.mem_cons.mp h with rfl | hrest
      · exact Or.inr List.mem_cons_self
      · exact (ih hrest).imp_right (List.mem_cons_of_mem _)

theorem mem_erase {key : κ} {entries : Assoc κ α} {entry : κ × α} :
    entry ∈ erase key entries ↔ entry ∈ entries ∧ entry.1 ≠ key := by
  simp [erase, List.mem_filter]

/-- Erasing a key that is not there changes nothing. -/
theorem erase_of_notMem {key : κ} {entries : Assoc κ α} (h : key ∉ entries.keys) :
    erase key entries = entries := by
  refine List.filter_eq_self.mpr fun entry hentry => ?_
  have hne : entry.1 ≠ key := fun heq => h (List.mem_map.mpr ⟨entry, hentry, heq⟩)
  exact decide_eq_true hne

/-- Without the key it does not matter what was set under it. -/
theorem erase_set (key : κ) (value : α) (entries : Assoc κ α) :
    erase key (set key value entries) = erase key entries := by
  induction entries with
  | nil => simp [set, erase]
  | cons entry rest ih =>
    obtain ⟨k, v⟩ := entry
    by_cases hk : k = key
    · simp [set, erase, hk]
    · simpa [set, erase, hk] using ih

/-- A new key is added at the end. -/
theorem set_of_notMem {key : κ} {entries : Assoc κ α} (h : key ∉ entries.keys) (value : α) :
    set key value entries = entries ++ [(key, value)] := by
  induction entries with
  | nil => rfl
  | cons entry rest ih =>
    obtain ⟨k, v⟩ := entry
    have hne : k ≠ key := by
      rintro rfl
      exact h List.mem_cons_self
    rw [set, if_neg hne, ih fun hmem => h (List.mem_cons_of_mem _ hmem), List.cons_append]

/-- Of two settings of a key the second one counts. -/
theorem set_set (key : κ) (first second : α) (entries : Assoc κ α) :
    set key second (set key first entries) = set key second entries := by
  induction entries with
  | nil => simp [set]
  | cons entry rest ih =>
    obtain ⟨k, v⟩ := entry
    by_cases hk : k = key
    · simp [set, hk]
    · simp [set, hk, ih]

theorem foldl_set_of_nodup {pairs entries : Assoc κ α} (h : (entries ++ pairs).keys.Nodup) :
    pairs.foldl (fun entries pair => set pair.1 pair.2 entries) entries = entries ++ pairs := by
  induction pairs generalizing entries with
  | nil => exact (List.append_nil entries).symm
  | cons pair rest ih =>
    have hnew : pair.1 ∉ entries.keys := by
      rw [keys, List.map_append, List.nodup_append] at h
      intro hmem
      exact h.2.2 _ hmem _ List.mem_cons_self rfl
    rw [List.foldl_cons, set_of_notMem hnew]
    have happend : entries ++ pair :: rest = entries ++ [pair] ++ rest :=
      (List.append_assoc entries [pair] rest).symm
    rw [happend] at h ⊢
    exact ih h

/-- Settings without a repeated key are the map that they make. -/
theorem ofPairs_of_nodup {pairs : Assoc κ α} (h : pairs.keys.Nodup) : ofPairs pairs = pairs :=
  foldl_set_of_nodup h

end SalonBooking.Assoc
