import Mathlib.Data.List.Forall2
import SalonBooking.Form.Normalize
import SalonBooking.Proofs.Data.Assoc

/-!
# Values that differ in the order of members only

An object is a set of members: the order in which they stand says nothing.
`Json.Same` relates values that are equal up to that order, at every depth.

Readers ask an object for members by name.  So they give the same answer for
values that are the same, and this file says so for every reader of single
values.  The statements about whole records of a form build on these.

* `Same.get`, `Same.items`: parts of values that are the same are the same.
* `Same.textOr`, `Same.boolOr`, `Same.readInt?`: and so is what is read off them.
* `Same.readPositioned`, `Same.mapIdx`: and so are the lists read from them.
-/

namespace SalonBooking

namespace Json

/-- Two values are the same up to the order of members. -/
inductive Same : Json → Json → Prop where
  | refl (v : Json) : Same v v
  | arr {vs ws : List Json} (items : List.Forall₂ Same vs ws) : Same (.arr vs) (.arr ws)
  | obj {ms ns : List (String × Json)}
      (members : ∀ key, Option.Rel Same (Assoc.get? key ms) (Assoc.get? key ns)) :
      Same (.obj ms) (.obj ns)

namespace Same

variable {v w : Json}

/-! ## Parts -/

/-- The members of a name are the same. -/
theorem get (h : v.Same w) (key : String) : (v.get key).Same (w.get key) := by
  cases h with
  | refl => exact .refl _
  | arr => exact .refl _
  | @obj ms ns members =>
    have hkey := members key
    simp only [Json.get, Json.members]
    generalize Assoc.get? key ms = found at hkey ⊢
    generalize Assoc.get? key ns = found' at hkey ⊢
    cases hkey with
    | none => exact .refl _
    | some hvalue => exact hvalue

theorem hasMember (h : v.Same w) (key : String) : v.hasMember key = w.hasMember key := by
  cases h with
  | refl => rfl
  | arr => rfl
  | @obj ms ns members =>
    have hkey := members key
    simp only [Json.hasMember, Json.members, Assoc.contains]
    generalize Assoc.get? key ms = found at hkey ⊢
    generalize Assoc.get? key ns = found' at hkey ⊢
    cases hkey with
    | none => rfl
    | some => rfl

/-- The items are the same one by one. -/
theorem items (h : v.Same w) : List.Forall₂ Same v.items w.items := by
  cases h with
  | refl => exact List.forall₂_same.mpr fun u _ => .refl u
  | arr items => exact items
  | obj => exact .nil

theorem isObject (h : v.Same w) : v.isObject = w.isObject := by
  cases h <;> rfl

theorem kindName (h : v.Same w) : v.kindName = w.kindName := by
  cases h <;> rfl

/-- What is the same as nothing is nothing. -/
theorem eq_null (h : v.Same .null) : v = .null := by
  cases h
  rfl

/-- What is the same as an object is an object. -/
theorem exists_eq_obj {ns : List (String × Json)} (h : v.Same (.obj ns)) :
    ∃ ms, v = .obj ms := by
  cases h with
  | refl => exact ⟨ns, rfl⟩
  | obj => exact ⟨_, rfl⟩

/-! ## Single readings -/

theorem textOr (h : v.Same w) (fallback : String) : v.textOr fallback = w.textOr fallback := by
  cases h <;> rfl

theorem asText (h : v.Same w) : v.asText = w.asText :=
  h.textOr ""

theorem boolOr (h : v.Same w) (fallback : Bool) : v.boolOr fallback = w.boolOr fallback := by
  cases h <;> rfl

theorem readInt? (h : v.Same w) : v.readInt? = w.readInt? := by
  cases h <;> rfl

theorem natOr (h : v.Same w) (fallback : Nat) : v.natOr fallback = w.natOr fallback := by
  rw [Json.natOr, Json.natOr, h.readInt?]

theorem intOr (h : v.Same w) (fallback : Int) : v.intOr fallback = w.intOr fallback := by
  rw [Json.intOr, Json.intOr, h.readInt?]

theorem isTruthy (h : v.Same w) : v.isTruthy = w.isTruthy := by
  cases h with
  | refl => rfl
  | arr items => cases items <;> rfl
  | @obj ms ns members =>
    have hempty : ms = [] ↔ ns = [] := by
      constructor
      · rintro rfl
        refine Assoc.eq_nil_of_get?_eq_none fun key => ?_
        have hkey := members key
        rw [Assoc.get?_nil] at hkey
        generalize Assoc.get? key ns = found at hkey ⊢
        cases hkey
        rfl
      · rintro rfl
        refine Assoc.eq_nil_of_get?_eq_none fun key => ?_
        have hkey := members key
        rw [Assoc.get?_nil] at hkey
        generalize Assoc.get? key ms = found at hkey ⊢
        cases hkey
        rfl
    cases ms <;> cases ns <;> simp_all [Json.isTruthy]

/-! ## Choosing between values -/

theorem orElse {v' w' : Json} (h : v.Same w) (h' : v'.Same w') :
    (v.orElse v').Same (w.orElse w') := by
  rw [Json.orElse, Json.orElse, h.isTruthy]
  split
  · exact h
  · exact h'

theorem firstPresent {v' w' : Json} (h : v.Same w) (h' : v'.Same w') :
    (Json.firstPresent [v, v']).Same (Json.firstPresent [w, w']) := by
  have hlast : (Json.firstPresent [v']).Same (Json.firstPresent [w']) := by
    cases h' with
    | refl => exact .refl _
    | arr items => exact .arr items
    | obj members => exact .obj members
  cases h with
  | refl =>
    cases v with
    | null => exact hlast
    | _ => exact .refl _
  | arr items => exact .arr items
  | obj members => exact .obj members

/-! ## Lists -/

theorem isEmpty_eq {vs ws : List Json} (h : List.Forall₂ Same vs ws) :
    vs.isEmpty = ws.isEmpty := by
  cases h <;> rfl

/-- Leaving out what is no object keeps lists the same. -/
theorem filter_isObject {vs ws : List Json} (h : List.Forall₂ Same vs ws) :
    List.Forall₂ Same (vs.filter Json.isObject) (ws.filter Json.isObject) := by
  induction h with
  | nil => exact .nil
  | @cons v w vs ws hvw _ ih =>
    rw [List.filter_cons, List.filter_cons, hvw.isObject]
    split
    · exact .cons hvw ih
    · exact ih

/-- A reading that tells no difference gives the same list. -/
theorem filterMap {α : Type} {read : Json → Option α}
    (hread : ∀ v w : Json, v.Same w → read v = read w) {vs ws : List Json}
    (h : List.Forall₂ Same vs ws) : vs.filterMap read = ws.filterMap read := by
  induction h with
  | nil => rfl
  | @cons v w vs ws hvw _ ih => rw [List.filterMap_cons, List.filterMap_cons, hread v w hvw, ih]

/-- The same for a reading that looks at the position. -/
theorem mapIdx {α : Type} {read : Nat → Json → α}
    (hread : ∀ i (v w : Json), v.Same w → read i v = read i w) {vs ws : List Json}
    (h : List.Forall₂ Same vs ws) : vs.mapIdx read = ws.mapIdx read := by
  induction h generalizing read with
  | nil => rfl
  | @cons v w vs ws hvw _ ih =>
    rw [List.mapIdx_cons, List.mapIdx_cons, hread 0 v w hvw, ih fun i => hread (i + 1)]

theorem readPositioned {α : Type} {read : Nat → Json → α}
    (hread : ∀ i (v w : Json), v.Same w → read i v = read i w) {vs ws : List Json}
    (h : List.Forall₂ Same vs ws) :
    SalonBooking.readPositioned read vs = SalonBooking.readPositioned read ws := by
  induction h generalizing read with
  | nil => rfl
  | @cons v w vs ws hvw _ ih =>
    rw [readPositioned_cons, readPositioned_cons, hvw.isObject, hread 0 v w hvw,
      ih fun i => hread (i + 1)]

end Same

end Json

end SalonBooking
