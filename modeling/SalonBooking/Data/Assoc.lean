/-!
# Association lists in insertion order

A finite map from keys to values that remembers the order in which the keys
came.  Setting a key that is there already changes its value and not its place.

* `get?_set_self`, `get?_set_of_ne`: what `set` does to a look-up.
* `get?_erase_self`, `get?_erase_of_ne`: what `erase` does to a look-up.
-/

namespace SalonBooking

/-- Values under keys, in the order in which the keys came. -/
abbrev Assoc (κ α : Type) := List (κ × α)

namespace Assoc

variable {κ α : Type} [DecidableEq κ]

/-- The value under a key: the first one, should there be several. -/
def get? (key : κ) (entries : Assoc κ α) : Option α :=
  List.lookup key entries

/-- Whether there is a value under a key. -/
def contains (key : κ) (entries : Assoc κ α) : Bool :=
  (entries.get? key).isSome

/-- The entries with one value replaced where it stands, or added at the end. -/
def set (key : κ) (value : α) : Assoc κ α → Assoc κ α
  | [] => [(key, value)]
  | (k, v) :: rest => if k = key then (k, value) :: rest else (k, v) :: set key value rest

/-- The entries without a key. -/
def erase (key : κ) (entries : Assoc κ α) : Assoc κ α :=
  entries.filter fun entry => entry.1 ≠ key

/-- The map that a list of settings makes: the last value of a key wins, at its first place. -/
def ofPairs (pairs : List (κ × α)) : Assoc κ α :=
  pairs.foldl (fun entries pair => set pair.1 pair.2 entries) []

/-- The keys, in order. -/
def keys (entries : Assoc κ α) : List κ :=
  entries.map (·.1)

@[simp] theorem get?_nil (key : κ) : get? key ([] : Assoc κ α) = none := rfl

theorem get?_cons (key k : κ) (v : α) (rest : Assoc κ α) :
    get? key ((k, v) :: rest) = if key = k then some v else get? key rest := by
  show (match key == k with
    | true => some v
    | false => rest.lookup key) = _
  by_cases h : key = k
  · subst h; simp
  · have hne : (key == k) = false := by simpa using h
    rw [hne, if_neg h]
    rfl

@[simp] theorem get?_set_self (key : κ) (value : α) (entries : Assoc κ α) :
    get? key (set key value entries) = some value := by
  induction entries with
  | nil => simp [set, get?_cons]
  | cons entry rest ih =>
    obtain ⟨k, v⟩ := entry
    by_cases h : k = key
    · simp [set, h, get?_cons]
    · simp [set, h, get?_cons, ih, Ne.symm h]

theorem get?_set_of_ne {key other : κ} (h : other ≠ key) (value : α) (entries : Assoc κ α) :
    get? other (set key value entries) = get? other entries := by
  induction entries with
  | nil => simp [set, get?_cons, h]
  | cons entry rest ih =>
    obtain ⟨k, v⟩ := entry
    by_cases hk : k = key
    · subst hk; simp [set, get?_cons, h]
    · simp [set, hk, get?_cons, ih]

@[simp] theorem get?_erase_self (key : κ) (entries : Assoc κ α) :
    get? key (erase key entries) = none := by
  induction entries with
  | nil => rfl
  | cons entry rest ih =>
    obtain ⟨k, v⟩ := entry
    by_cases h : k = key
    · simpa [erase, h] using ih
    · simp [erase, h, get?_cons, Ne.symm h] at ih ⊢
      exact ih

theorem get?_erase_of_ne {key other : κ} (h : other ≠ key) (entries : Assoc κ α) :
    get? other (erase key entries) = get? other entries := by
  induction entries with
  | nil => rfl
  | cons entry rest ih =>
    obtain ⟨k, v⟩ := entry
    by_cases hk : k = key
    · subst hk
      simp only [erase, ne_eq, not_true_eq_false, decide_false, Bool.false_eq_true,
        not_false_eq_true, List.filter_cons_of_neg, get?_cons, h, if_false] at ih ⊢
      exact ih
    · simp only [erase, ne_eq, hk, not_false_eq_true, decide_true, List.filter_cons_of_pos,
        get?_cons] at ih ⊢
      rw [ih]

end Assoc

end SalonBooking
