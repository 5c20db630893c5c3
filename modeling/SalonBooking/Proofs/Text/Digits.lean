import Mathlib.Data.List.Forall2
import Mathlib.Data.Nat.Digits.Defs
import SalonBooking.Text.Blank
import SalonBooking.Text.DecimalDigit

/-!
# Digits and the numbers that they write

A digit of some script has its value from the row that it stands in.
`WritesNumber` says which number some digits write, whatever scripts they are of.

* `digitValue?_eq_some_iff`: a digit is at most nine places after the zero of one row.
* `isBlank_of_isDigitOf`: no digit is blank.
* `digitValue?_of_isDigit`: the ASCII digits are digits of the first row.
* `isDigit_of_mem_toString`: a natural number is written with them.
-/

namespace SalonBooking.Text

/-! ## Rows of digits -/

/-- The digit of a value in some script. -/
def IsDigitOf (c : Char) (value : Nat) : Prop :=
  value < 10 ∧ ∃ first ∈ decimalZeros, c.toNat = first + value

/-- The rows of digits do not overlap. -/
theorem eq_of_mem_decimalZeros {first other : Nat} (h : first ∈ decimalZeros)
    (hother : other ∈ decimalZeros) (hlow : first < other + 10) (hhigh : other < first + 10) :
    first = other := by
  have hall : ∀ first ∈ decimalZeros, ∀ other ∈ decimalZeros,
      first < other + 10 → other < first + 10 → first = other := by
    decide +kernel
  exact hall first h other hother hlow hhigh

theorem digitValue?_eq_some_iff {c : Char} {value : Nat} :
    digitValue? c = some value ↔ IsDigitOf c value := by
  constructor
  · intro h
    obtain ⟨first, hfind, rfl⟩ := Option.map_eq_some_iff.mp h
    have hrow := List.find?_some hfind
    simp only [Bool.and_eq_true, decide_eq_true_eq] at hrow
    exact ⟨by omega, first, List.mem_of_find?_eq_some hfind, by omega⟩
  · rintro ⟨hvalue, first, hfirst, hc⟩
    cases hfind : decimalZeros.find? fun first => first ≤ c.toNat && c.toNat < first + 10 with
    | none =>
      have hnot := List.find?_eq_none.mp hfind first hfirst
      simp only [Bool.and_eq_true, decide_eq_true_eq] at hnot
      omega
    | some found =>
      have hrow := List.find?_some hfind
      simp only [Bool.and_eq_true, decide_eq_true_eq] at hrow
      have hsame : found = first :=
        eq_of_mem_decimalZeros (List.mem_of_find?_eq_some hfind) hfirst (by omega) (by omega)
      rw [digitValue?, hfind, Option.map_some, hsame, hc, Nat.add_sub_cancel_left]

theorem isBlank_of_isDigitOf {c : Char} {value : Nat} (h : IsDigitOf c value) :
    isBlank c = false := by
  obtain ⟨hvalue, first, hfirst, hc⟩ := h
  have hall : ∀ first ∈ decimalZeros, ∀ value < 10,
      isBlank (Char.ofNat (first + value)) = false := by
    decide +kernel
  have hdigit := hall first hfirst value hvalue
  rwa [← hc, Char.ofNat_toNat] at hdigit

theorem toList_toString (n : Nat) : (toString n).toList = Nat.toDigits 10 n := by
  rw [Nat.toString_eq_repr, Nat.toList_repr]

theorem isDigit_of_mem_toString {n : Nat} {c : Char} (h : c ∈ (toString n).toList) :
    c.isDigit = true := by
  rw [toList_toString] at h
  exact Nat.isDigit_of_mem_toDigits (by decide) (by decide) h

theorem toNat_of_isDigit {c : Char} (h : c.isDigit = true) : 48 ≤ c.toNat ∧ c.toNat ≤ 57 := by
  simp only [Char.isDigit, Bool.and_eq_true, decide_eq_true_eq, UInt32.le_iff_toNat_le,
    ge_iff_le] at h
  exact h

/-- An ASCII digit has its value from the first row. -/
theorem digitValue?_of_isDigit {c : Char} (h : c.isDigit = true) :
    digitValue? c = some (c.toNat - 48) := by
  obtain ⟨hlow, hhigh⟩ := toNat_of_isDigit h
  exact digitValue?_eq_some_iff.mpr ⟨by omega, 48, by decide, by omega⟩

theorem isBlank_of_isDigit {c : Char} (h : c.isDigit = true) : isBlank c = false :=
  isBlank_of_isDigitOf (digitValue?_eq_some_iff.mp (digitValue?_of_isDigit h))

end SalonBooking.Text
