import Mathlib.Algebra.Order.Ring.Int
import SalonBooking.Proofs.Number.Whole

/-!
# Rounding whole numbers

`IsNearest` says what it means to be a nearest finite value, measured in units of
the smallest positive one, so that everything is about integers.  Of two values
that are equally near the one with the even significand is taken.

* `roundQuotient_near`: a rounded quotient is at most half a unit off.
* `isNearest_ofInt`: the value of a whole number is nearest to it.
* `isFinite_ofInt_iff`: it is finite up to half a step past the largest finite value.
* `IsNearest.mono`: rounding keeps the order.

Powers of two stay folded in `twoTo`, as they do in the exact case.
-/

namespace SalonBooking

theorem twoTo_succ (n : Nat) : twoTo (n + 1) = 2 * twoTo n :=
  Nat.pow_succ'

theorem twoTo_lt_twoTo {a b : Nat} (h : a < b) : twoTo a < twoTo b :=
  Nat.pow_lt_pow_right (by decide) h

namespace Binary64

/-! ## Nearest multiples -/

section

variable {den : Nat}

theorem roundQuotient_eq_or (num den : Nat) :
    roundQuotient num den = num / den ∨ roundQuotient num den = num / den + 1 := by
  rw [roundQuotient]
  split
  · exact .inl rfl
  · exact .inr rfl

/-- The rounded quotient is at most half a unit off, and even if it is exactly that far off. -/
theorem roundQuotient_near (num : Nat) (h : 0 < den) :
    2 * (((roundQuotient num den * den : Nat) : Int) - num).natAbs ≤ den ∧
      (2 * (((roundQuotient num den * den : Nat) : Int) - num).natAbs = den →
        roundQuotient num den % 2 = 0) := by
  have hsplit := Nat.div_add_mod num den
  have hrem := Nat.mod_lt num h
  rw [Nat.mul_comm] at hsplit
  rw [roundQuotient]
  generalize num / den = q at hsplit ⊢
  generalize num % den = r at hsplit hrem ⊢
  split
  · omega
  · have hnext : (q + 1) * den = q * den + den := Nat.succ_mul q den
    rw [hnext]
    omega

/-- Another multiple is at least as far away, and if it is as far the rounded quotient is even. -/
theorem roundQuotient_nearest (num : Nat) (h : 0 < den) {c : Int}
    (hc : c ≠ roundQuotient num den) :
    (((roundQuotient num den * den : Nat) : Int) - num).natAbs ≤ (c * den - num).natAbs ∧
      ((((roundQuotient num den * den : Nat) : Int) - num).natAbs = (c * den - num).natAbs →
        roundQuotient num den % 2 = 0) := by
  obtain ⟨hnear, heven⟩ := roundQuotient_near num h
  have hgap : den ≤ (c * den - (roundQuotient num den * den : Nat)).natAbs := by
    rw [Nat.cast_mul, ← Int.sub_mul, Int.natAbs_mul, Int.natAbs_natCast]
    exact Nat.le_mul_of_pos_left den (Int.natAbs_pos.mpr (sub_ne_zero.mpr hc))
  generalize roundQuotient num den * den = multiple at hnear heven hgap ⊢
  constructor
  · omega
  · intro htie
    exact heven (by omega)

end

/-! ## Magnitudes of 53 bits -/

/-- The exponent at which a magnitude is rounded. -/
def binade (magnitude : Nat) : Nat :=
  magnitude.log2 - 52

/-- The significand that a magnitude is rounded to. -/
def roundedSignificand (magnitude : Nat) : Nat :=
  roundQuotient magnitude (twoTo (binade magnitude))

/-- What a magnitude is rounded to, however large it is. -/
def roundedMagnitude (magnitude : Nat) : Nat :=
  roundedSignificand magnitude * twoTo (binade magnitude)

variable {magnitude : Nat}

theorem lt_twoTo_binade (magnitude : Nat) : magnitude < twoTo (53 + binade magnitude) :=
  Nat.lt_of_lt_of_le Nat.lt_log2_self (twoTo_le_twoTo (by rw [binade]; omega))

/-- Above the least exponent the leading bit is set. -/
theorem twoTo_binade_le (h : 0 < binade magnitude) : twoTo (52 + binade magnitude) ≤ magnitude := by
  have hlog : 52 + binade magnitude = magnitude.log2 := by
    rw [binade] at h ⊢
    omega
  have hne : magnitude ≠ 0 := by
    rintro rfl
    exact absurd h (by decide)
  rw [hlog]
  exact Nat.log2_self_le hne

theorem roundedSignificand_le (magnitude : Nat) : roundedSignificand magnitude ≤ twoTo 53 := by
  have hquotient : magnitude / twoTo (binade magnitude) < twoTo 53 := by
    rw [Nat.div_lt_iff_lt_mul (twoTo_pos _), ← twoTo_add]
    exact lt_twoTo_binade magnitude
  rw [roundedSignificand]
  rcases roundQuotient_eq_or magnitude (twoTo (binade magnitude)) with h | h <;> omega

theorem le_roundedSignificand (h : 0 < binade magnitude) :
    twoTo 52 ≤ roundedSignificand magnitude := by
  have hquotient : twoTo 52 ≤ magnitude / twoTo (binade magnitude) := by
    rw [Nat.le_div_iff_mul_le (twoTo_pos _), ← twoTo_add]
    exact twoTo_binade_le h
  rw [roundedSignificand]
  rcases roundQuotient_eq_or magnitude (twoTo (binade magnitude)) with h | h <;> omega

/-- Parts in range make a finite value exactly below the end of the range, and one with an even
significand if they have one. -/
theorem ofParts_cases (negative : Bool) {significand exponent : Nat}
    (hle : significand ≤ twoTo 53) (hlead : 0 < exponent → twoTo 52 ≤ significand) :
    (significand * twoTo exponent < twoTo 2098 ∧ ∃ m e h,
      ofParts negative significand exponent = .finite negative m e h ∧
        m * twoTo e = significand * twoTo exponent ∧ (significand % 2 = 0 → m % 2 = 0)) ∨
    (twoTo 2098 ≤ significand * twoTo exponent ∧
      ofParts negative significand exponent = .infinite negative) := by
  by_cases hcarry : significand = twoTo 53
  · have hvalue : twoTo 52 * twoTo (exponent + 1) = twoTo 53 * twoTo exponent := by
      rw [← twoTo_add, ← twoTo_add]
      congr 1
      omega
    subst hcarry
    simp only [ofParts, if_true]
    split
    · rename_i hcanonical
      refine .inl ⟨?_, _, _, hcanonical, rfl, hvalue, fun _ => by decide⟩
      rw [← hvalue, ← twoTo_add]
      exact twoTo_lt_twoTo (by have := hcanonical.2.1; omega)
    · rename_i hcanonical
      refine .inr ⟨?_, rfl⟩
      have hlarge : ¬ exponent + 1 ≤ 2045 := fun hsmall =>
        hcanonical ⟨twoTo_lt_twoTo (by decide), hsmall, .inr (Nat.le_refl _)⟩
      rw [← hvalue, ← twoTo_add]
      exact twoTo_le_twoTo (by omega)
  · simp only [ofParts, if_neg hcarry]
    split
    · rename_i hcanonical
      refine .inl ⟨?_, _, _, hcanonical, rfl, rfl, id⟩
      calc significand * twoTo exponent
          < twoTo 53 * twoTo exponent :=
            Nat.mul_lt_mul_of_pos_right hcanonical.1 (twoTo_pos _)
        _ = twoTo (53 + exponent) := (twoTo_add _ _).symm
        _ ≤ twoTo 2098 := twoTo_le_twoTo (by have := hcanonical.2.1; omega)
    · rename_i hcanonical
      refine .inr ⟨?_, rfl⟩
      have hlarge : ¬ exponent ≤ 2045 := fun hsmall =>
        hcanonical ⟨by omega, hsmall, (Nat.eq_zero_or_pos exponent).imp id hlead⟩
      calc twoTo 2098
          ≤ twoTo (52 + exponent) := twoTo_le_twoTo (by omega)
        _ = twoTo 52 * twoTo exponent := twoTo_add _ _
        _ ≤ significand * twoTo exponent := Nat.mul_le_mul_right _ (hlead (by omega))

/-! ## The nearest value -/

/-- How far a value is from a whole number, in the same units. -/
def distance (x : Binary64) (n : Int) : Nat :=
  (x.signedUnits - n * twoTo 1074).natAbs

/-- Whether the significand of a finite value is even. -/
def HasEvenSignificand : Binary64 → Prop
  | .finite _ significand _ _ => significand % 2 = 0
  | .infinite _ => False
  | .notANumber => False

/-- A finite value that no finite value is nearer to a whole number than, with an even significand
if another one is as near. -/
structure IsNearest (x : Binary64) (n : Int) : Prop where
  isFinite : x.isFinite = true
  distance_le : ∀ y : Binary64, y.isFinite = true → x.distance n ≤ y.distance n
  even_of_tie : ∀ y : Binary64, y.isFinite = true → y.signedUnits ≠ x.signedUnits →
    x.distance n = y.distance n → x.HasEvenSignificand

/-- A value is a multiple of a power of two, or has its leading bit below those of 53 bits. -/
theorem signedUnits_cases (y : Binary64) (e : Nat) :
    (∃ c : Int, y.signedUnits = c * twoTo e) ∨
      (0 < e ∧ y.signedUnits.natAbs < twoTo (52 + e)) := by
  cases y with
  | infinite negative => exact .inl ⟨0, by cases negative <;> simp [signedUnits, units]⟩
  | notANumber => exact .inl ⟨0, by simp [signedUnits, units]⟩
  | finite negative significand exponent canonical =>
    have hmagnitude : (Binary64.finite negative significand exponent canonical).signedUnits.natAbs =
        significand * twoTo exponent := by
      simp only [signedUnits, units]
      split <;> simp only [Int.natAbs_neg, Int.natAbs_natCast]
    rcases Nat.lt_or_ge exponent e with hsmall | hlarge
    · refine .inr ⟨by omega, ?_⟩
      rw [hmagnitude]
      calc significand * twoTo exponent
          < twoTo 53 * twoTo exponent := Nat.mul_lt_mul_of_pos_right canonical.1 (twoTo_pos _)
        _ = twoTo (53 + exponent) := (twoTo_add _ _).symm
        _ ≤ twoTo (52 + e) := twoTo_le_twoTo (by omega)
    · obtain ⟨more, rfl⟩ := Nat.exists_eq_add_of_le' hlarge
      refine .inl ⟨if negative then -(significand * twoTo more : Nat)
        else (significand * twoTo more : Nat), ?_⟩
      simp only [signedUnits, isNegative, units, twoTo_add, ← Nat.mul_assoc]
      split <;> simp only [Nat.cast_mul, Int.neg_mul]

/-- No value is nearer to a magnitude than what it is rounded to, and another one is as near only if
the significand is even. -/
theorem roundedMagnitude_nearest (y : Binary64) (hy : y.signedUnits ≠ roundedMagnitude magnitude) :
    ((roundedMagnitude magnitude : Int) - magnitude).natAbs ≤
        (y.signedUnits - magnitude).natAbs ∧
      (((roundedMagnitude magnitude : Int) - magnitude).natAbs =
        (y.signedUnits - magnitude).natAbs → roundedSignificand magnitude % 2 = 0) := by
  have hpos := twoTo_pos (binade magnitude)
  rcases signedUnits_cases y (binade magnitude) with ⟨c, hc⟩ | ⟨hbinade, hsmall⟩
  · rw [hc] at hy ⊢
    refine roundQuotient_nearest magnitude hpos ?_
    rintro rfl
    exact hy (Nat.cast_mul _ _).symm
  · -- The least value with the leading bit lies between the two.
    have hlead := twoTo_binade_le hbinade
    rw [twoTo_add] at hlead hsmall
    have hstep : ((roundedMagnitude magnitude : Int) - magnitude).natAbs ≤
        ((twoTo 52 * twoTo (binade magnitude) : Nat) - (magnitude : Int)).natAbs := by
      by_cases hsame : (twoTo 52 : Int) = roundedSignificand magnitude
      · rw [roundedMagnitude, ← Int.natCast_inj.mp hsame]
      · have := (roundQuotient_nearest magnitude hpos hsame).1
        rwa [← Nat.cast_mul] at this
    generalize twoTo 52 * twoTo (binade magnitude) = least at hlead hsmall hstep
    omega

theorem ofInt_eq (n : Int) :
    ofInt n = ofParts (n < 0) (roundedSignificand (n.natAbs * twoTo 1074))
      (binade (n.natAbs * twoTo 1074)) := by
  simp only [ofInt, round, Nat.div_one, Nat.one_mul, roundedSignificand, binade]

/-- The value of a whole number has the rounded magnitude if that is within the range. -/
theorem ofInt_cases (n : Int) :
    (roundedMagnitude (n.natAbs * twoTo 1074) < twoTo 2098 ∧ ∃ m e h,
      ofInt n = .finite (n < 0) m e h ∧ m * twoTo e = roundedMagnitude (n.natAbs * twoTo 1074) ∧
        (roundedSignificand (n.natAbs * twoTo 1074) % 2 = 0 → m % 2 = 0)) ∨
    (twoTo 2098 ≤ roundedMagnitude (n.natAbs * twoTo 1074) ∧ ofInt n = .infinite (n < 0)) := by
  rw [ofInt_eq]
  exact ofParts_cases _ (roundedSignificand_le _) le_roundedSignificand

/-- The value of a whole number is nearest to it. -/
theorem isNearest_ofInt {n : Nat} (h : (ofInt n).isFinite = true) : (ofInt n).IsNearest n := by
  rcases ofInt_cases n with ⟨-, m, e, hcanonical, heq, hvalue, heven⟩ | ⟨-, heq⟩
  case inr =>
    rw [heq] at h
    cases h
  rw [Int.natAbs_natCast] at hvalue heven
  have hsign : decide ((n : Int) < 0) = false := decide_eq_false (by omega)
  rw [hsign] at heq
  have hunits : (ofInt n).signedUnits = roundedMagnitude (n * twoTo 1074) := by
    rw [heq, ← hvalue]
    rfl
  have hsame {y : Binary64} (hy : y.signedUnits = (ofInt n).signedUnits) :
      (ofInt n).distance n = y.distance n := by
    rw [distance, distance, hy]
  have hnearest {y : Binary64} (hy : y.signedUnits ≠ (ofInt n).signedUnits) :
      (ofInt n).distance n ≤ y.distance n ∧
        ((ofInt n).distance n = y.distance n → m % 2 = 0) := by
    rw [hunits] at hy
    have hfar := roundedMagnitude_nearest y hy
    rw [Nat.cast_mul] at hfar
    rw [distance, distance, hunits]
    exact ⟨hfar.1, fun htie => heven (hfar.2 htie)⟩
  constructor
  case isFinite => exact h
  case distance_le =>
    intro y _
    by_cases hy : y.signedUnits = (ofInt n).signedUnits
    · exact Nat.le_of_eq (hsame hy)
    · exact (hnearest hy).1
  case even_of_tie =>
    intro y _ hy htie
    rw [heq]
    exact (hnearest hy).2 htie

/-- Nearest values come in the order of the numbers. -/
theorem IsNearest.mono {m n : Int} {x y : Binary64} (hx : x.IsNearest m) (hy : y.IsNearest n)
    (h : m < n) : x.signedUnits ≤ y.signedUnits := by
  have hleft := hx.distance_le y hy.isFinite
  have hright := hy.distance_le x hx.isFinite
  have hunits : m * twoTo 1074 < n * twoTo 1074 :=
    Int.mul_lt_mul_of_pos_right h (Int.natCast_pos.mpr (twoTo_pos _))
  simp only [distance] at hleft hright
  omega

/-! ## The end of the range -/

/-- Half a step past the largest finite value.  Whole numbers from here on have no finite value. -/
def overflowFrom : Nat :=
  (twoTo 53 - 1) * twoTo 971 + twoTo 970

/-- A magnitude in the last binade is rounded past the range from its last half step on. -/
theorem roundedSignificand_lt_iff (h : binade magnitude = 2045) :
    roundedSignificand magnitude < twoTo 53 ↔
      magnitude < (twoTo 53 - 1) * twoTo 2045 + twoTo 2044 := by
  have hdouble : twoTo 2045 = 2 * twoTo 2044 := twoTo_succ 2044
  have hbits : twoTo 53 = 9007199254740992 := rfl
  obtain ⟨hnear, heven⟩ := roundQuotient_near magnitude (twoTo_pos (binade magnitude))
  have hle := roundedSignificand_le magnitude
  have hpos := twoTo_pos 2044
  rw [← roundedSignificand, h, hdouble] at hnear heven
  rw [hdouble]
  rw [hbits] at hle ⊢
  generalize roundedSignificand magnitude = q at hnear heven hle ⊢
  generalize twoTo 2044 = half at hnear heven hpos ⊢
  -- The last two significands are the ones that decide; the very last is odd and loses a tie.
  rcases Nat.lt_or_ge q 9007199254740991 with hsmall | hlarge
  · have hbelow : q * (2 * half) ≤ 9007199254740990 * (2 * half) :=
      Nat.mul_le_mul_right _ (by omega)
    generalize q * (2 * half) = multiple at hnear heven hbelow
    exact iff_of_true (by omega) (by omega)
  · obtain rfl | rfl : q = 9007199254740991 ∨ q = 9007199254740992 := by omega
    · omega
    · omega

/-- The rounded magnitude is within the range up to half a step past the largest finite value. -/
theorem roundedMagnitude_lt_iff :
    roundedMagnitude magnitude < twoTo 2098 ↔
      magnitude < (twoTo 53 - 1) * twoTo 2045 + twoTo 2044 := by
  have hbits : twoTo 53 = 9007199254740992 := rfl
  have hdouble : twoTo 2045 = 2 * twoTo 2044 := twoTo_succ 2044
  have hend : twoTo 2098 = twoTo 53 * twoTo 2045 := twoTo_add 53 2045
  rcases Nat.lt_trichotomy (binade magnitude) 2045 with hsmall | hlast | hlarge
  · have hmagnitude : magnitude < twoTo 53 * twoTo 2044 := by
      rw [← twoTo_add]
      exact Nat.lt_of_lt_of_le (lt_twoTo_binade magnitude) (twoTo_le_twoTo (by omega))
    have hrounded : roundedMagnitude magnitude ≤ twoTo 53 * twoTo 2044 :=
      Nat.mul_le_mul (roundedSignificand_le magnitude) (twoTo_le_twoTo (by omega))
    have hpos := twoTo_pos 2044
    rw [hend, hdouble]
    rw [hbits] at hmagnitude hrounded ⊢
    exact iff_of_true (by omega) (by omega)
  · rw [← roundedSignificand_lt_iff hlast, hend, roundedMagnitude, hlast]
    exact Nat.mul_lt_mul_right (twoTo_pos _)
  · have hmagnitude : twoTo 53 * twoTo 2045 ≤ magnitude := by
      rw [← twoTo_add]
      exact Nat.le_trans (twoTo_le_twoTo (by omega)) (twoTo_binade_le (by omega))
    have hrounded : twoTo 53 * twoTo 2045 ≤ roundedMagnitude magnitude := by
      calc twoTo 53 * twoTo 2045
          = twoTo (53 + 2045) := (twoTo_add 53 2045).symm
        _ ≤ twoTo (52 + binade magnitude) := twoTo_le_twoTo (by omega)
        _ = twoTo 52 * twoTo (binade magnitude) := twoTo_add _ _
        _ ≤ roundedMagnitude magnitude :=
          Nat.mul_le_mul_right _ (le_roundedSignificand (by omega))
    have hpos := twoTo_pos 2044
    rw [hend]
    rw [hdouble] at hmagnitude hrounded ⊢
    rw [hbits] at hmagnitude hrounded ⊢
    exact iff_of_false (by omega) (by omega)

/-- A whole number has a finite value up to half a step past the largest one. -/
theorem isFinite_ofInt_iff (n : Int) : (ofInt n).isFinite = true ↔ n.natAbs < overflowFrom := by
  have hscaled : (twoTo 53 - 1) * twoTo 2045 + twoTo 2044 = overflowFrom * twoTo 1074 := by
    rw [overflowFrom, Nat.add_mul, Nat.mul_assoc, ← twoTo_add, ← twoTo_add]
  rw [← Nat.mul_lt_mul_right (twoTo_pos 1074), ← hscaled, ← roundedMagnitude_lt_iff]
  rcases ofInt_cases n with ⟨hlt, m, e, h, heq, -⟩ | ⟨hle, heq⟩
  · rw [heq]
    exact iff_of_true rfl hlt
  · rw [heq]
    exact iff_of_false Bool.false_ne_true (Nat.not_lt.mpr hle)

/-! ## Whole values -/

/-- What a whole number is rounded to is whole. -/
theorem dvd_roundedMagnitude (n : Nat) : twoTo 1074 ∣ roundedMagnitude (n * twoTo 1074) := by
  rcases Nat.lt_or_ge (binade (n * twoTo 1074)) 1074 with hsmall | hlarge
  · -- The step is a fraction of one, so the number is not rounded at all.
    obtain ⟨k, hk⟩ := Nat.exists_eq_add_of_lt hsmall
    have hsplit : k + 1 + binade (n * twoTo 1074) = 1074 := by omega
    have hmultiple : n * twoTo 1074 =
        n * twoTo (k + 1) * twoTo (binade (n * twoTo 1074)) := by
      rw [Nat.mul_assoc, ← twoTo_add, hsplit]
    refine ⟨n, ?_⟩
    rw [roundedMagnitude, roundedSignificand]
    generalize binade (n * twoTo 1074) = e at hmultiple ⊢
    rw [hmultiple, roundQuotient_mul _ (twoTo_pos _), ← hmultiple, Nat.mul_comm]
  · obtain ⟨k, hk⟩ := Nat.exists_eq_add_of_le' hlarge
    rw [roundedMagnitude, hk, twoTo_add]
    exact (Nat.dvd_mul_left _ _).mul_left _

/-- The finite value of a whole number is its integer part. -/
theorem exists_truncate?_ofInt {n : Nat} (h : (ofInt n).isFinite = true) :
    ∃ r : Nat, (ofInt n).truncate? = some (r : Int) ∧ (ofInt n).signedUnits = r * twoTo 1074 := by
  rcases ofInt_cases n with ⟨-, m, e, hcanonical, heq, hvalue, -⟩ | ⟨-, heq⟩
  case inr =>
    rw [heq] at h
    cases h
  obtain ⟨r, hr⟩ := dvd_roundedMagnitude n
  have hsign : decide ((n : Int) < 0) = false := decide_eq_false (by omega)
  rw [Int.natAbs_natCast, hr, Nat.mul_comm (twoTo 1074) r] at hvalue
  rw [heq, hsign]
  refine ⟨r, ?_, ?_⟩
  · simp only [truncate?, hvalue, Nat.mul_div_cancel _ (twoTo_pos _), Bool.false_eq_true, if_false]
  · rw [← Nat.cast_mul, ← hvalue]
    rfl

end Binary64

end SalonBooking
