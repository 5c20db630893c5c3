import SalonBooking.Data.Limits
import SalonBooking.Number.Decimal

/-!
# Integers within the limits

* `digitCount_le_iff`: an integer has at most as many digits as the exponent of a
  power of ten above it.
* `Limits.isSome_text?_of_lt`: so every machine converts the integers below `10 ^ 640`.
-/

namespace SalonBooking

theorem tenTo_le_tenTo {m n : Nat} (h : m ≤ n) : tenTo m ≤ tenTo n :=
  Nat.pow_le_pow_right (by decide) h

theorem digitCount_le_iff {n : Int} {k : Nat} (hk : 0 < k) :
    digitCount n ≤ k ↔ n.natAbs < tenTo k :=
  Nat.length_toDigits_le_iff (by decide) hk

theorem digitCount_le {n : Int} (h : n.natAbs < tenTo leastMaxDigits) :
    digitCount n ≤ leastMaxDigits :=
  (digitCount_le_iff (by decide)).mpr h

namespace Limits

variable {limits : Limits} {n : Int}

theorem isSome_text? : (limits.text? n).isSome = limits.allows (digitCount n) := by
  rw [text?]
  cases limits.allows (digitCount n) with
  | false => rfl
  | true => rfl

theorem isSome_text?_of_lt (h : n.natAbs < tenTo leastMaxDigits) :
    (limits.text? n).isSome = true := by
  rw [isSome_text?]
  exact allows_of_le (digitCount_le h)

end Limits

end SalonBooking
