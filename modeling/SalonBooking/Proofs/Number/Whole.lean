import Mathlib.Tactic.ByContra
import SalonBooking.Number.Binary64

/-!
# Whole numbers among the binary ones

Integers of a form pass through a binary number when they are read.  This file
says which of them come out as they went in.

* `truncate?_ofInt`: a whole number that is representable is its own rounding,
  so the integer part of it is the number itself.
* `IsRepresentable.of_truncate?`: the integer part of any finite value is
  representable.  Reading an integer a second time therefore changes nothing.
* `isRepresentable_of_lt`: every whole number below `2 ^ 53` is representable.

Powers of two stay folded in `twoTo`: the largest exponent is 2098, and no
proof needs the value of such a power.
-/

namespace SalonBooking

/-! ## Powers of two -/

theorem twoTo_pos (n : Nat) : 0 < twoTo n :=
  Nat.pow_pos (by decide)

theorem twoTo_add (a b : Nat) : twoTo (a + b) = twoTo a * twoTo b :=
  Nat.pow_add 2 a b

theorem twoTo_le_twoTo {a b : Nat} (h : a ≤ b) : twoTo a ≤ twoTo b :=
  Nat.pow_le_pow_right (by decide) h

theorem lt_of_twoTo_lt_twoTo {a b : Nat} (h : twoTo a < twoTo b) : a < b := by
  by_contra hge
  have := twoTo_le_twoTo (Nat.le_of_not_lt hge)
  omega

namespace Binary64

/-! ## Representable numbers -/

/-- A whole number that is a significand of 53 bits times a power of two, within
the range of the format. -/
def IsRepresentable (n : Nat) : Prop :=
  ∃ m k, m < twoTo 53 ∧ n = m * twoTo k ∧ n < twoTo 1024

theorem isRepresentable_of_lt {n : Nat} (h : n < twoTo 53) : IsRepresentable n := by
  refine ⟨n, 0, h, ?_, ?_⟩
  · exact (Nat.mul_one n).symm
  · exact Nat.lt_of_lt_of_le h (twoTo_le_twoTo (by decide))

theorem IsRepresentable.lt {n : Nat} (h : IsRepresentable n) : n < twoTo 1024 := by
  obtain ⟨_, _, _, _, hlt⟩ := h
  exact hlt

/-- The magnitude of the integer part of a canonical value is representable. -/
theorem isRepresentable_magnitude {significand exponent : Nat}
    (h : IsCanonical significand exponent) :
    IsRepresentable (significand * twoTo exponent / twoTo 1074) := by
  obtain ⟨hsig, hexp, -⟩ := h
  by_cases hbig : 1074 ≤ exponent
  · obtain ⟨k, rfl⟩ := Nat.exists_eq_add_of_le' hbig
    have hsplit : significand * twoTo (k + 1074) / twoTo 1074 = significand * twoTo k := by
      rw [twoTo_add, ← Nat.mul_assoc, Nat.mul_div_cancel _ (twoTo_pos _)]
    refine ⟨significand, k, hsig, hsplit, ?_⟩
    rw [hsplit]
    calc significand * twoTo k
        < twoTo 53 * twoTo k := Nat.mul_lt_mul_of_pos_right hsig (twoTo_pos _)
      _ = twoTo (53 + k) := (twoTo_add _ _).symm
      _ ≤ twoTo 1024 := twoTo_le_twoTo (by omega)
  · -- A fraction is cut off, so the quotient is no larger than the significand.
    refine isRepresentable_of_lt (Nat.lt_of_le_of_lt ?_ hsig)
    have hle : significand * twoTo exponent ≤ significand * twoTo 1074 :=
      Nat.mul_le_mul_left _ (twoTo_le_twoTo (by omega))
    calc significand * twoTo exponent / twoTo 1074
        ≤ significand * twoTo 1074 / twoTo 1074 := Nat.div_le_div_right hle
      _ = significand := Nat.mul_div_cancel _ (twoTo_pos _)

/-- The integer part of a value is representable, whatever its sign. -/
theorem IsRepresentable.of_truncate? {x : Binary64} {n : Int} (h : x.truncate? = some n) :
    IsRepresentable n.natAbs := by
  cases x with
  | infinite negative => simp [truncate?] at h
  | notANumber => simp [truncate?] at h
  | finite negative significand exponent canonical =>
    have hmag := isRepresentable_magnitude canonical
    simp only [truncate?, Option.some.injEq] at h
    generalize significand * twoTo exponent / twoTo 1074 = magnitude at h hmag
    subst h
    cases negative <;> simpa using hmag

/-! ## Exact rounding -/

/-- A quotient without remainder is not rounded. -/
theorem roundQuotient_mul (q : Nat) {den : Nat} (h : 0 < den) :
    roundQuotient (q * den) den = q := by
  have hquot : q * den / den = q := Nat.mul_div_cancel q h
  have hrem : q * den % den = 0 := Nat.mul_mod_left q den
  rw [roundQuotient]
  simp only [hquot, hrem]
  exact if_pos (Or.inl h)

/-- The parts of a canonical value stay as they are. -/
theorem ofParts_of_isCanonical (negative : Bool) {significand exponent : Nat}
    (h : IsCanonical significand exponent) :
    ofParts negative significand exponent = .finite negative significand exponent h := by
  have hne : significand ≠ twoTo 53 := Nat.ne_of_lt h.1
  simp only [ofParts, if_neg hne, dif_pos h]

/-- The binary exponent that rounding picks for a representable number divides it, and the
quotient is a canonical significand. -/
theorem exists_canonical {n : Nat} (h : IsRepresentable n) :
    ∃ q, n * twoTo 1074 = q * twoTo ((n * twoTo 1074).log2 - 52) ∧
      IsCanonical q ((n * twoTo 1074).log2 - 52) := by
  obtain ⟨m, k, hm, hn, hlt⟩ := h
  rcases Nat.eq_zero_or_pos n with rfl | hpos
  · rw [Nat.zero_mul, Nat.log2_zero]
    exact ⟨0, (Nat.zero_mul _).symm, twoTo_pos 53, by omega, Or.inl rfl⟩
  have hlow : twoTo (n * twoTo 1074).log2 ≤ n * twoTo 1074 :=
    Nat.log2_self_le (Nat.ne_of_gt (Nat.mul_pos hpos (twoTo_pos _)))
  have hhigh : n * twoTo 1074 < twoTo ((n * twoTo 1074).log2 + 1) := Nat.lt_log2_self
  have hscaled : n * twoTo 1074 = m * twoTo (k + 1074) := by
    rw [hn, twoTo_add, Nat.mul_assoc]
  have hmin : 1074 < (n * twoTo 1074).log2 + 1 := by
    refine lt_of_twoTo_lt_twoTo (Nat.lt_of_le_of_lt ?_ hhigh)
    exact Nat.le_mul_of_pos_left _ hpos
  have hmax : (n * twoTo 1074).log2 < 1024 + 1074 := by
    refine lt_of_twoTo_lt_twoTo (Nat.lt_of_le_of_lt hlow ?_)
    rw [twoTo_add]
    exact Nat.mul_lt_mul_of_pos_right hlt (twoTo_pos _)
  have hwidth : (n * twoTo 1074).log2 < 53 + (k + 1074) := by
    refine lt_of_twoTo_lt_twoTo (Nat.lt_of_le_of_lt hlow ?_)
    rw [hscaled, twoTo_add 53]
    exact Nat.mul_lt_mul_of_pos_right hm (twoTo_pos _)
  -- With the logarithm `52 + e` the scaled number lies between `2 ^ (52 + e)` and `2 ^ (53 + e)`.
  generalize (n * twoTo 1074).log2 = log at hlow hhigh hmin hmax hwidth ⊢
  obtain ⟨e, rfl⟩ : ∃ e, log = 52 + e := ⟨log - 52, by omega⟩
  rw [Nat.add_sub_cancel_left]
  obtain ⟨d, hd⟩ : ∃ d, k + 1074 = d + e := ⟨k + 1074 - e, by omega⟩
  have hq : n * twoTo 1074 = m * twoTo d * twoTo e := by
    rw [hscaled, hd, twoTo_add, Nat.mul_assoc]
  refine ⟨m * twoTo d, hq, ?_, by omega, Or.inr ?_⟩
  · refine Nat.lt_of_mul_lt_mul_right (a := twoTo e) ?_
    rw [← hq, ← twoTo_add]
    have hnext : 53 + e = 52 + e + 1 := by omega
    rw [hnext]
    exact hhigh
  · refine Nat.le_of_mul_le_mul_right (c := twoTo e) ?_ (twoTo_pos _)
    rw [← hq, ← twoTo_add]
    exact hlow

/-- A representable whole number is its own rounding. -/
theorem truncate?_ofInt {n : Nat} (h : IsRepresentable n) :
    (ofInt n).truncate? = some (n : Int) := by
  obtain ⟨q, hq, hcanonical⟩ := exists_canonical h
  have hsign : decide ((n : Int) < 0) = false := by
    rw [decide_eq_false_iff_not]
    omega
  rw [ofInt, hsign, Int.natAbs_natCast, round]
  simp only [Nat.div_one, Nat.one_mul]
  have hround : roundQuotient (n * twoTo 1074) (twoTo ((n * twoTo 1074).log2 - 52)) = q := by
    generalize (n * twoTo 1074).log2 - 52 = e at hq ⊢
    rw [hq]
    exact roundQuotient_mul q (twoTo_pos _)
  rw [hround, ofParts_of_isCanonical false hcanonical, truncate?, ← hq,
    Nat.mul_div_cancel _ (twoTo_pos _)]
  rfl

end Binary64

end SalonBooking
