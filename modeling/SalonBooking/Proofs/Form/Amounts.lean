import SalonBooking.Proofs.Form.Stored
import SalonBooking.Proofs.Json.Tokens
import SalonBooking.Proofs.Number.Rounding
import SalonBooking.Proofs.Text.Digits

/-!
# Prices and durations

A price or a duration is a whole number, written as a number or as a text.  It
takes the way through a binary number, so it is exact up to `2 ^ 53`, rounded
beyond, and not read at all from `Binary64.overflowFrom` on.

* `readFloat?_toString`: the decimal text of a whole number is read as its value.
* `natOr_int_eq`, `natOr_int_of_neg`: what becomes of a whole number.
* `amount_exact`: amounts are exact, rounded or left out, the same from a number as
  from its text, stable when they are read again, and in the order of the numbers.
-/

namespace SalonBooking

theorem Binary64.round_zero (negative : Bool) : round negative 0 1 = zero negative := by
  have hquotient : roundQuotient 0 (1 * twoTo 0) = 0 := rfl
  simp only [round, Nat.zero_mul, Nat.zero_div, Nat.log2_zero, Nat.zero_sub, hquotient]
  exact ofParts_of_isCanonical negative (by decide)

/-! ## Decimal texts -/

namespace Numeral

/-- Digits are taken as they are. -/
theorem plainDigits_of_isDigit {cs : List Char} (h : ∀ c ∈ cs, c.isDigit = true)
    (afterDigit : Bool) : plainDigits afterDigit cs = some cs := by
  induction cs generalizing afterDigit with
  | nil => rw [plainDigits]
  | cons c rest ih =>
    have hc := h c List.mem_cons_self
    have hrest := ih (fun d hd => h d (List.mem_cons_of_mem c hd)) true
    obtain ⟨hlow, hhigh⟩ := Text.toNat_of_isDigit hc
    have hsame : Char.ofNat ('0'.toNat + (c.toNat - 48)) = c := by
      rw [show '0'.toNat = 48 from rfl, Nat.add_sub_cancel' hlow, Char.ofNat_toNat]
    rw [plainDigits]
    · simp only [Text.digitValue?_of_isDigit hc, hrest, Option.map_some, hsame]
    · rintro rfl
      exact absurd hc (by decide)

theorem readUnsigned?_of_isDigit {cs : List Char} (h : ∀ c ∈ cs, c.isDigit = true)
    (hne : cs ≠ []) : readUnsigned? cs = some ⟨cs, [], 0⟩ := by
  have hsplit : splitDigits cs = (cs, []) := by
    have hall : splitDigits (cs ++ []) = (cs, []) := splitDigits_of_all h (by simp)
    rwa [List.append_nil] at hall
  simp only [readUnsigned?, hsplit, readExponent, List.append_nil, List.isEmpty_nil,
    Bool.not_true, Bool.or_false, Option.getD_none, List.isEmpty_iff, if_neg hne]

/-- The value of a numeral of digits is rounded once. -/
theorem toBinary64_digits (negative : Bool) (n : Nat) :
    ((Numeral.mk (Nat.toDigits 10 n) [] 0).toDecimal negative).toBinary64 =
      .round negative n 1 := by
  have hvalue : (Numeral.mk (Nat.toDigits 10 n) [] 0).toDecimal negative = ⟨negative, n, 0⟩ := by
    simp only [toDecimal, List.append_nil, Json.digitsValue_toDigits, List.length_nil,
      Nat.cast_zero, Int.sub_self]
  rw [hvalue, Decimal.toBinary64]
  dsimp only
  by_cases hzero : n = 0
  · rw [if_pos hzero, hzero, Binary64.round_zero]
  · have hsmall : ¬ (0 : Int) < -(401 + n.log2 : Int) := by omega
    have hone : tenTo (0 : Int).toNat = 1 := rfl
    rw [if_neg hzero, if_neg (by decide), if_neg hsmall, if_pos (Int.le_refl 0), hone, Nat.mul_one]

end Numeral

/-- Digits spell none of the words for special numbers. -/
theorem toLower_digits_ne {cs : List Char} (h : ∀ c ∈ cs, c.isDigit = true) (word : String)
    (letter : Char) (hletter : letter ∈ word.toList) (hno : letter.isDigit = false) :
    (String.ofList (cs.map Char.toLower) == word) = false := by
  rw [beq_eq_false_iff_ne]
  rintro rfl
  rw [String.toList_ofList] at hletter
  obtain ⟨c, hc, rfl⟩ := List.mem_map.mp hletter
  obtain ⟨hlow, hhigh⟩ := Text.toNat_of_isDigit (h c hc)
  have hsmall : ¬ ('A'.val ≤ c.val ∧ c.val ≤ 'Z'.val) := by
    rintro ⟨hA, -⟩
    have hA : 65 ≤ c.toNat := hA
    omega
  have hsame : c.toLower = c := dif_neg hsmall
  rw [hsame, h c hc] at hno
  cases hno

section

variable (n : Int)

/-- The text of a whole number has nothing at its ends to trim. -/
theorem Numeral.isMargin_of_mem_toString :
    ∀ c ∈ (toString n).toList, Numeral.isMargin c = false := by
  intro c hc
  rw [Numeral.isMargin, Bool.and_eq_false_iff]
  left
  rcases Json.eq_minus_or_isDigit_of_mem_int hc with rfl | hdigit
  · decide
  · exact Text.isBlank_of_isDigit hdigit

theorem Numeral.plainDigits_toString :
    Numeral.plainDigits false (toString n).toList = some (toString n).toList := by
  have hdigits : ∀ c ∈ Nat.toDigits 10 n.natAbs, c.isDigit = true := fun _ =>
    Nat.isDigit_of_mem_toDigits (by decide) (by decide)
  rw [Json.toList_toString_int]
  split
  · have hminus : Text.digitValue? '-' = none := by decide
    rw [List.singleton_append, Numeral.plainDigits]
    · simp only [hminus, Numeral.plainDigits_of_isDigit hdigits]
      rfl
    · exact fun heq => absurd heq (by decide)
  · exact Numeral.plainDigits_of_isDigit hdigits false

theorem Numeral.splitSign_toString :
    Numeral.splitSign (toString n).toList = (decide (n < 0), Nat.toDigits 10 n.natAbs) := by
  rw [Json.toList_toString_int]
  by_cases hneg : n < 0
  · rw [if_pos hneg, decide_eq_true hneg]
    rfl
  · rw [if_neg hneg, decide_eq_false hneg, List.nil_append]
    obtain ⟨c, digits, hdigits, hc⟩ := Json.exists_natAbs_eq_cons n
    rw [hdigits, Numeral.splitSign]
    · rintro other ⟨rfl, -⟩
      exact absurd hc (by decide)
    · rintro other ⟨rfl, -⟩
      exact absurd hc (by decide)

/-- The decimal text of a whole number is read as the value of that number. -/
theorem readFloat?_toString : readFloat? (toString n) = some (Binary64.ofInt n) := by
  have hdigits : ∀ c ∈ Nat.toDigits 10 n.natAbs, c.isDigit = true := fun _ =>
    Nat.isDigit_of_mem_toDigits (by decide) (by decide)
  simp only [readFloat?, Text.trimBy_of_forall (Numeral.isMargin_of_mem_toString n),
    Numeral.plainDigits_toString, Numeral.splitSign_toString, Option.bind_eq_bind,
    Option.bind_some, toLower_digits_ne hdigits "inf" 'i' (by decide) rfl,
    toLower_digits_ne hdigits "infinity" 'i' (by decide) rfl,
    toLower_digits_ne hdigits "nan" 'n' (by decide) rfl, Bool.or_false,
    Bool.false_eq_true, if_false, Numeral.readUnsigned?_of_isDigit hdigits Nat.toDigits_ne_nil,
    Option.map_some]
  rw [Numeral.toBinary64_digits, Binary64.ofInt]

end

/-! ## Amounts -/

namespace Json

theorem natOr_int_of_neg {n : Int} (h : n < 0) : (Json.int n).natOr 0 = 0 := by
  rw [natOr, readInt?]
  rcases Binary64.ofInt_cases n with ⟨-, m, e, hcanonical, heq, -⟩ | ⟨-, heq⟩
  · rw [heq, decide_eq_true h]
    simp only [Binary64.truncate?, if_true, Option.map_some, Option.getD_some]
    exact Int.toNat_eq_zero.mpr (Int.neg_nonpos_of_nonneg (Int.natCast_nonneg _))
  · rw [heq]
    rfl

theorem natOr_int_of_overflow {n : Int} (h : Binary64.overflowFrom ≤ n.natAbs) :
    (Json.int n).natOr 0 = 0 := by
  have hinfinite : ¬ (Binary64.ofInt n).isFinite = true := by
    rw [Binary64.isFinite_ofInt_iff]
    exact Nat.not_lt.mpr h
  rw [natOr, readInt?]
  rcases Binary64.ofInt_cases n with ⟨-, m, e, hcanonical, heq, -⟩ | ⟨-, heq⟩
  · rw [heq] at hinfinite
    exact absurd rfl hinfinite
  · rw [heq]
    rfl

/-- Within the range the amount of a whole number is the nearest value. -/
theorem natOr_int_nearest {n : Nat} (h : n < Binary64.overflowFrom) :
    (Binary64.ofInt n).IsNearest n ∧
      (Binary64.ofInt n).signedUnits = (Json.int n).natOr 0 * twoTo 1074 := by
  have hfinite : (Binary64.ofInt n).isFinite = true := by
    rw [Binary64.isFinite_ofInt_iff, Int.natAbs_natCast]
    exact h
  obtain ⟨r, htruncate, hunits⟩ := Binary64.exists_truncate?_ofInt hfinite
  refine ⟨Binary64.isNearest_ofInt hfinite, ?_⟩
  rw [natOr, readInt?, htruncate, hunits]
  rfl

theorem natOr_str_toString (n : Int) (fallback : Nat) :
    (Json.str (toString n)).natOr fallback = (Json.int n).natOr fallback := by
  rw [natOr, natOr, readInt?, readInt?, readFloat?_toString, Option.bind_some]

/-- Amounts come in the order of the numbers. -/
theorem natOr_int_mono {m n : Int} (h : m ≤ n) (hm : m.natAbs < Binary64.overflowFrom)
    (hn : n.natAbs < Binary64.overflowFrom) : (Json.int m).natOr 0 ≤ (Json.int n).natOr 0 := by
  rcases lt_or_ge m 0 with hneg | hpos
  · rw [natOr_int_of_neg hneg]
    exact Nat.zero_le _
  rcases eq_or_lt_of_le h with rfl | hlt
  · exact Nat.le_refl _
  obtain ⟨m, rfl⟩ := Int.eq_ofNat_of_zero_le hpos
  obtain ⟨n, rfl⟩ := Int.eq_ofNat_of_zero_le (Int.le_trans hpos h)
  obtain ⟨hnearest, hunits⟩ := natOr_int_nearest hm
  obtain ⟨hnearest', hunits'⟩ := natOr_int_nearest hn
  have hle := hnearest.mono hnearest' hlt
  rw [hunits, hunits', ← Nat.cast_mul, ← Nat.cast_mul, Int.ofNat_le] at hle
  exact Nat.le_of_mul_le_mul_right hle (twoTo_pos 1074)

end Json

/-- The largest whole number up to which all are representable. -/
theorem Binary64.isRepresentable_of_le {n : Nat} (h : n ≤ twoTo 53) : IsRepresentable n := by
  rcases Nat.lt_or_eq_of_le h with hlt | rfl
  · exact isRepresentable_of_lt hlt
  · exact ⟨twoTo 52, 1, twoTo_lt_twoTo (by decide), (twoTo_add 52 1).symm ▸ rfl,
      twoTo_lt_twoTo (by decide)⟩

/-- The amount of a whole number: none below zero, the number itself up to `2 ^ 53`, then the
nearest binary value, ties going to the even significand, as long as it is finite, and none past
that.  The decimal text has the same amount, an amount is its own amount, and amounts of numbers in
the finite range come in the order of the numbers. -/
theorem amount_exact (n : Int) :
    (n < 0 → (Json.int n).natOr 0 = 0) ∧
    (0 ≤ n → n ≤ 2 ^ 53 → ((Json.int n).natOr 0 : Int) = n) ∧
    (2 ^ 53 < n → n < Binary64.overflowFrom → ∃ x : Binary64, x.IsNearest n ∧
      x.signedUnits = (Json.int n).natOr 0 * twoTo 1074) ∧
    (Binary64.overflowFrom ≤ n → (Json.int n).natOr 0 = 0) ∧
    (Json.str (toString n)).natOr 0 = (Json.int n).natOr 0 ∧
    (Json.int ((Json.int n).natOr 0)).natOr 0 = (Json.int n).natOr 0 ∧
    ∀ m : Int, m ≤ n → m.natAbs < Binary64.overflowFrom → n.natAbs < Binary64.overflowFrom →
      (Json.int m).natOr 0 ≤ (Json.int n).natOr 0 := by
  refine ⟨Json.natOr_int_of_neg, fun hpos hle => ?_, fun hlow hhigh => ?_, fun hover => ?_,
    Json.natOr_str_toString n 0, Json.natOr_int (isRepresentable_natOr_zero _) 0,
    fun m => Json.natOr_int_mono⟩
  · obtain ⟨k, rfl⟩ := Int.eq_ofNat_of_zero_le hpos
    have hk : k ≤ twoTo 53 := by exact_mod_cast hle
    rw [Json.natOr_int (Binary64.isRepresentable_of_le hk)]
  · obtain ⟨k, rfl⟩ := Int.eq_ofNat_of_zero_le (show 0 ≤ n by omega)
    exact ⟨_, Json.natOr_int_nearest (Int.ofNat_lt.mp hhigh)⟩
  · exact Json.natOr_int_of_overflow (by omega)

/-- A tie goes down to one even significand and up to the other. -/
example : (Json.int (2 ^ 53 + 1)).natOr 0 = 2 ^ 53 ∧
    (Json.int (2 ^ 53 + 3)).natOr 0 = 2 ^ 53 + 4 := by
  decide +kernel

end SalonBooking
