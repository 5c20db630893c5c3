import SalonBooking.Json.Coerce
import SalonBooking.Proofs.Data.Limits

/-!
# The integers of the parts of a value

A member or an item of a value has no longer integers than the value itself.

* `fits_get`, `fits_of_mem_items`: so the parts of a value that fits the machine fit
  as well.
* `hasText_of_fits`: and the machine takes their texts.
-/

namespace SalonBooking

namespace Json

variable {limits : Limits} {v : Json}

theorem digits_le_membersDigits {ms : List (String × Json)} {key : String}
    (h : Assoc.get? key ms = some v) : v.digits ≤ membersDigits ms := by
  induction ms with
  | nil => cases h
  | cons entry rest ih =>
    rw [Assoc.get?_cons] at h
    rw [membersDigits]
    split at h
    · obtain rfl := Option.some.inj h
      exact Nat.le_max_left _ _
    · exact Nat.le_trans (ih h) (Nat.le_max_right _ _)

theorem digits_le_itemsDigits {vs : List Json} (h : v ∈ vs) : v.digits ≤ itemsDigits vs := by
  induction vs with
  | nil => cases h
  | cons first rest ih =>
    rw [itemsDigits]
    rcases List.mem_cons.mp h with rfl | h
    · exact Nat.le_max_left _ _
    · exact Nat.le_trans (ih h) (Nat.le_max_right _ _)

theorem digits_get_le (v : Json) (key : String) : (v.get key).digits ≤ v.digits := by
  cases v with
  | obj ms =>
    rw [get, members]
    cases hvalue : Assoc.get? key ms with
    | none => exact Nat.zero_le _
    | some value => exact digits_le_membersDigits hvalue
  | _ => exact Nat.zero_le _

theorem fits_get (h : v.fits limits = true) (key : String) : (v.get key).fits limits = true :=
  Limits.allows_anti (digits_get_le v key) h

theorem fits_of_mem_items (h : v.fits limits = true) {item : Json} (hitem : item ∈ v.items) :
    item.fits limits = true := by
  cases v with
  | arr vs => exact Limits.allows_anti (digits_le_itemsDigits hitem) h
  | _ => cases hitem

theorem hasText_of_fits (h : v.fits limits = true) : v.hasText limits = true := by
  cases v with
  | int n =>
    rw [hasText, Limits.isSome_text?]
    exact h
  | _ => rfl

end Json

end SalonBooking
