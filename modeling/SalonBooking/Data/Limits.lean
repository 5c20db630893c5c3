/-!
# Limits of the machine

Two things that are asked of a document depend on the machine that reads it.

* Integers are turned into decimal digits and back.  The machine may bound the
  number of digits of an integer that it converts, in either direction; it may
  also do without a bound, but it has none below 640.
* Arrays and objects stand inside each other in a text.  A reader goes down one
  level after the other and gives up when there is no room left.

`Limits.allows` is the one check of every conversion between integers and digits.

* `allows_iff`, `allows_of_le`: what is within every bound is converted by every machine.
-/

namespace SalonBooking

/-- The least bound on digits that a machine may have. -/
def leastMaxDigits : Nat := 640

/-- What a machine can convert and read. -/
structure Limits where
  /-- The most digits of an integer that is converted, if there is a bound. -/
  maxDigits : Option Nat
  /-- How many arrays and objects may stand inside each other in a text that is read. -/
  nesting : Nat
  le_maxDigits : ∀ most ∈ maxDigits, leastMaxDigits ≤ most

/-- The number of digits that an integer is written with, its sign not counted. -/
def digitCount (n : Int) : Nat :=
  (Nat.toDigits 10 n.natAbs).length

namespace Limits

/-- The limits of a machine on which nobody has changed them. -/
def standard : Limits where
  maxDigits := some 4300
  nesting := 990
  le_maxDigits := by decide

/-- Whether an integer of so many digits is converted. -/
def allows (limits : Limits) (count : Nat) : Bool :=
  limits.maxDigits.all (count ≤ ·)

/-- The decimal text of an integer, if it is converted. -/
def text? (limits : Limits) (n : Int) : Option String :=
  if limits.allows (digitCount n) then some (toString n) else none

variable {limits : Limits} {count : Nat}

theorem allows_iff : limits.allows count = true ↔ ∀ most ∈ limits.maxDigits, count ≤ most := by
  rw [allows]
  cases limits.maxDigits with
  | none => simp
  | some most => simp

/-- A machine without a bound converts every integer. -/
theorem allows_of_eq_none (h : limits.maxDigits = none) : limits.allows count = true := by
  rw [allows, h]
  rfl

/-- What is within the least bound is converted by every machine. -/
theorem allows_of_le (h : count ≤ leastMaxDigits) : limits.allows count = true :=
  allows_iff.mpr fun most hmost => Nat.le_trans h (limits.le_maxDigits most hmost)

theorem allows_anti {fewer : Nat} (hle : fewer ≤ count) (h : limits.allows count = true) :
    limits.allows fewer = true :=
  allows_iff.mpr fun most hmost => Nat.le_trans hle (allows_iff.mp h most hmost)

theorem allows_max {other : Nat} :
    limits.allows (max count other) = (limits.allows count && limits.allows other) := by
  rw [Bool.eq_iff_iff, Bool.and_eq_true]
  simp only [allows_iff, Nat.max_le]
  exact ⟨fun h => ⟨fun most hmost => (h most hmost).1, fun most hmost => (h most hmost).2⟩,
    fun h most hmost => ⟨h.1 most hmost, h.2 most hmost⟩⟩

end Limits

end SalonBooking
