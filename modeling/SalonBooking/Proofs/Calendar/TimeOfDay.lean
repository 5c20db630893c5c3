import Mathlib.Data.String.Basic
import SalonBooking.Calendar.TimeOfDay

/-!
# Times of day are read as they are written

* `parse?_format`: a time of day that is written is read back.
* `lt_of_parse?`: what is read is a minute of a day.
* `format_lt_format`: later times come later in the order of texts.
-/

namespace SalonBooking.TimeOfDay

/-! ## Digits -/

/-- Numbers of two digits are written as they are. -/
theorem twoDigits_natCast {n : Nat} (h : n < 100) :
    twoDigits n = [Nat.digitChar (n / 10), Nat.digitChar (n % 10)] := by
  have hall : ∀ n : Nat, n < 100 →
      twoDigits n = [Nat.digitChar (n / 10), Nat.digitChar (n % 10)] := by
    decide +kernel
  exact hall n h

theorem digitValue?_digitChar {d : Nat} (h : d < 10) :
    Text.digitValue? (Nat.digitChar d) = some d := by
  have hall : ∀ d : Nat, d < 10 → Text.digitValue? (Nat.digitChar d) = some d := by
    decide +kernel
  exact hall d h

theorem isBlank_digitChar {d : Nat} (h : d < 10) : Text.isBlank (Nat.digitChar d) = false := by
  have hall : ∀ d : Nat, d < 10 → Text.isBlank (Nat.digitChar d) = false := by
    decide +kernel
  exact hall d h

theorem digitChar_lt_digitChar {d e : Nat} (h : d < e) (he : e < 10) :
    Nat.digitChar d < Nat.digitChar e := by
  have hall : ∀ e : Nat, e < 10 → ∀ d : Nat, d < e → Nat.digitChar d < Nat.digitChar e := by
    decide +kernel
  exact hall e he d h

/-! ## Times -/

/-- The four digits of a time of day. -/
theorem format_natCast {m : Nat} (h : m < 1440) :
    format m = String.ofList [Nat.digitChar (m / 60 / 10), Nat.digitChar (m / 60 % 10), ':',
      Nat.digitChar (m % 60 / 10), Nat.digitChar (m % 60 % 10)] := by
  have hhour : twoDigits ((m : Int) / 60) = twoDigits ((m / 60 : Nat) : Int) := by
    rw [Int.natCast_ediv, Int.cast_ofNat_Int]
  have hminute : twoDigits ((m : Int) % 60) = twoDigits ((m % 60 : Nat) : Int) := by
    rw [Int.natCast_emod, Int.cast_ofNat_Int]
  rw [format, hhour, hminute, twoDigits_natCast (by omega), twoDigits_natCast (by omega)]
  rfl

/-- A time of day that is written is read back. -/
theorem parse?_format {m : Nat} (h : m < 1440) : parse? (format m) = some m := by
  have hblank : ∀ c ∈ [Nat.digitChar (m / 60 / 10), Nat.digitChar (m / 60 % 10), ':',
      Nat.digitChar (m % 60 / 10), Nat.digitChar (m % 60 % 10)], Text.isBlank c = false := by
    simp only [List.forall_mem_cons]
    exact ⟨isBlank_digitChar (by omega), isBlank_digitChar (by omega), by decide,
      isBlank_digitChar (by omega), isBlank_digitChar (by omega), nofun⟩
  have hhour : m / 60 / 10 * 10 + m / 60 % 10 = m / 60 := by omega
  have hminute : m % 60 / 10 * 10 + m % 60 % 10 = m % 60 := by omega
  have hrange : ¬ (23 < m / 60 ∨ 59 < m % 60) := by omega
  rw [parse?, format_natCast h, String.toList_ofList, Text.trimBy_of_forall hblank]
  simp only [ofChars?, digitValue?_digitChar (show m / 60 / 10 < 10 by omega),
    digitValue?_digitChar (show m / 60 % 10 < 10 by omega),
    digitValue?_digitChar (show m % 60 / 10 < 10 by omega),
    digitValue?_digitChar (show m % 60 % 10 < 10 by omega), Option.bind_eq_bind, Option.bind_some,
    hhour, hminute, ofHourMinute?, if_neg hrange]
  congr 1
  omega

/-- Later times come later in the order of texts. -/
theorem format_lt_format {m n : Nat} (h : m < n) (hn : n < 1440) : format m < format n := by
  -- At the first digit in which they differ the earlier time has the smaller one.
  have hfirst : m / 60 / 10 < n / 60 / 10 ∨ m / 60 / 10 = n / 60 / 10 ∧
      (m / 60 % 10 < n / 60 % 10 ∨ m / 60 % 10 = n / 60 % 10 ∧
        (m % 60 / 10 < n % 60 / 10 ∨ m % 60 / 10 = n % 60 / 10 ∧
          m % 60 % 10 < n % 60 % 10)) := by
    omega
  rw [format_natCast (Nat.lt_trans h hn), format_natCast hn, String.lt_iff_toList_lt,
    String.toList_ofList, String.toList_ofList]
  rcases hfirst with hlt | ⟨htens, hlt | ⟨hunits, hlt | ⟨hminuteTens, hlt⟩⟩⟩
  · exact List.cons_lt_cons_iff.mpr (.inl (digitChar_lt_digitChar hlt (by omega)))
  · rw [htens]
    exact List.cons_lt_cons_self.mpr
      (List.cons_lt_cons_iff.mpr (.inl (digitChar_lt_digitChar hlt (by omega))))
  · rw [htens, hunits]
    simp only [List.cons_lt_cons_self]
    exact List.cons_lt_cons_iff.mpr (.inl (digitChar_lt_digitChar hlt (by omega)))
  · rw [htens, hunits, hminuteTens]
    simp only [List.cons_lt_cons_self]
    exact List.cons_lt_cons_iff.mpr (.inl (digitChar_lt_digitChar hlt (by omega)))

theorem lt_of_ofHourMinute? {hour minute m : Nat} (h : ofHourMinute? hour minute = some m) :
    m < 1440 := by
  rw [ofHourMinute?] at h
  split at h
  · cases h
  · obtain rfl := Option.some.inj h
    omega

/-- What is read is a minute of a day. -/
theorem lt_of_parse? {s : String} {m : Nat} (h : parse? s = some m) : m < 1440 := by
  unfold parse? ofChars? at h
  split at h
  · simp only [Option.bind_eq_bind, Option.bind_eq_some_iff] at h
    obtain ⟨_, -, _, -, _, -, hm⟩ := h
    exact lt_of_ofHourMinute? hm
  · simp only [Option.bind_eq_bind, Option.bind_eq_some_iff] at h
    obtain ⟨_, -, _, -, _, -, _, -, hm⟩ := h
    exact lt_of_ofHourMinute? hm
  · cases h

end SalonBooking.TimeOfDay
