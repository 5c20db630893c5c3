import Mathlib.Data.Bool.AllAny
import SalonBooking.Json.Printer
import SalonBooking.Json.Reader
import SalonBooking.Proofs.Data.Limits
import SalonBooking.Proofs.Text.Digits

/-!
# Written strings and integers

What is written for a string or an integer is read back from the front of a
longer text.

An embedded value has some of its characters escaped a second time.  The
lemmas hold for every such escaping that is `Harmless`: one that touches no
character outside strings, and inside strings only ones that stand for
themselves, which it replaces by escapes for them.

* `readString_written`: a string ends with its closing quote, and what is in
  between comes back character by character.
* `readNumber_int`: an integer ends where `EndsNumber` holds, and has no more
  digits than the machine converts.
-/

namespace SalonBooking.Json

/-! ## Integers -/

/-- A text in front of which an integer comes to its end. -/
def EndsNumber (rest : List Char) : Prop :=
  ∀ c ∈ rest.head?, c.isDigit = false ∧ c ≠ '.' ∧ c ≠ 'e' ∧ c ≠ 'E'

theorem endsNumber_nil : EndsNumber [] := by
  intro c hc
  simp at hc

theorem endsNumber_cons {c : Char} (rest : List Char) (hdigit : c.isDigit = false)
    (hother : c ≠ '.' ∧ c ≠ 'e' ∧ c ≠ 'E') : EndsNumber (c :: rest) := by
  intro d hd
  obtain rfl : c = d := by simpa using hd
  exact ⟨hdigit, hother⟩

theorem digitsValue_toDigits (n : Nat) : Text.digitsValue (Nat.toDigits 10 n) = n := by
  rw [Text.digitsValue, ← Nat.ofDigitChars_eq_foldl]
  exact Nat.ofDigitChars_ten_toDigits

/-- The first digit is a zero for zero only. -/
theorem exists_toDigits_eq_cons {n : Nat} (h : 0 < n) :
    ∃ c rest, Nat.toDigits 10 n = c :: rest ∧ c ≠ '0' := by
  induction n using Nat.strongRecOn with
  | _ n ih =>
    by_cases hsmall : n < 10
    · refine ⟨n.digitChar, [], Nat.toDigits_of_lt_base hsmall, ?_⟩
      intro hzero
      rw [Nat.digitChar_eq_zero] at hzero
      omega
    · obtain ⟨c, rest, hdigits, hc⟩ := ih (n / 10) (by omega) (by omega)
      refine ⟨c, rest ++ [(n % 10).digitChar], ?_, hc⟩
      rw [Nat.toDigits_of_base_le (by decide) (by omega), hdigits, List.cons_append]

theorem readWhole_toDigits (n : Nat) {rest : List Char} (hrest : EndsNumber rest) :
    readWhole (Nat.toDigits 10 n ++ rest) = (Nat.toDigits 10 n, rest) := by
  rcases Nat.eq_zero_or_pos n with rfl | hpos
  · rw [Nat.toDigits_zero]
    rfl
  · obtain ⟨c, digits, hdigits, hc⟩ := exists_toDigits_eq_cons hpos
    have hsplit : Numeral.splitDigits (Nat.toDigits 10 n ++ rest) =
        (Nat.toDigits 10 n, rest) :=
      Numeral.splitDigits_of_all
        (fun d hd => Nat.isDigit_of_mem_toDigits (by decide) (by decide) hd)
        fun d hd => (hrest d hd).1
    rw [hdigits, List.cons_append] at hsplit ⊢
    rw [readWhole]
    · exact hsplit
    · intro other hother
      exact hc (List.cons.inj hother).1

theorem readFraction_of_endsNumber {rest : List Char} (h : EndsNumber rest) :
    readFraction rest = (none, rest) := by
  rw [readFraction]
  rintro other rfl
  exact (h '.' rfl).2.1 rfl

theorem readExponent_of_endsNumber {rest : List Char} (h : EndsNumber rest) :
    Numeral.readExponent rest = (none, rest) := by
  cases rest with
  | nil => rfl
  | cons c rest =>
    obtain ⟨-, -, hsmall, hcapital⟩ := h c rfl
    have hno : (c == 'e' || c == 'E') = false := by
      rw [beq_false_of_ne hsmall, beq_false_of_ne hcapital]
      rfl
    simp only [Numeral.readExponent, hno, Bool.false_eq_true, if_false]

variable {limits : Limits}

theorem readUnsigned_toDigits (negative : Bool) {n : Nat}
    (hn : limits.allows (Nat.toDigits 10 n).length = true) {rest : List Char}
    (hrest : EndsNumber rest) :
    readUnsigned limits negative (Nat.toDigits 10 n ++ rest) =
      .ok (.int (if negative then -(n : Int) else n), rest) := by
  have hnonempty : (Nat.toDigits 10 n).isEmpty = false := by
    rw [List.isEmpty_eq_false_iff]
    exact Nat.toDigits_ne_nil
  simp only [readUnsigned, readWhole_toDigits n hrest, hnonempty, readFraction_of_endsNumber hrest,
    readExponent_of_endsNumber hrest, Bool.false_eq_true, if_false, if_pos hn, digitsValue_toDigits]

/-- The characters that an integer is written with. -/
theorem toList_toString_int (n : Int) :
    (toString n).toList =
      (if n < 0 then ['-'] else []) ++ Nat.toDigits 10 n.natAbs := by
  cases n with
  | ofNat m =>
    have hsign : ¬ Int.ofNat m < 0 := Int.not_lt.mpr (Int.natCast_nonneg m)
    rw [if_neg hsign]
    exact Text.toList_toString m
  | negSucc m =>
    rw [if_pos (Int.negSucc_lt_zero m)]
    show ("-" ++ (m + 1).repr).toList = ['-'] ++ Nat.toDigits 10 (m + 1)
    rw [String.toList_append, Nat.toList_repr]
    rfl

theorem eq_minus_or_isDigit_of_mem_int {n : Int} {c : Char} (h : c ∈ (toString n).toList) :
    c = '-' ∨ c.isDigit = true := by
  rw [toList_toString_int, List.mem_append] at h
  rcases h with h | h
  · split at h
    · exact .inl (List.mem_singleton.mp h)
    · cases h
  · exact .inr (Nat.isDigit_of_mem_toDigits (by decide) (by decide) h)

/-- The digits of an integer start with one. -/
theorem exists_natAbs_eq_cons (n : Int) :
    ∃ c digits, Nat.toDigits 10 n.natAbs = c :: digits ∧ c.isDigit = true := by
  obtain ⟨c, digits, hdigits⟩ := List.exists_cons_of_ne_nil
    (show Nat.toDigits 10 n.natAbs ≠ [] from Nat.toDigits_ne_nil)
  have hmem : c ∈ Nat.toDigits 10 n.natAbs := hdigits ▸ List.mem_cons_self
  exact ⟨c, digits, hdigits, Nat.isDigit_of_mem_toDigits (by decide) (by decide) hmem⟩

/-- A digit starts none of the words for numbers, and has no sign. -/
theorem readNumber_digit {c : Char} (h : c.isDigit = true) (rest : List Char) :
    readNumber limits (c :: rest) = readUnsigned limits false (c :: rest) := by
  rw [readNumber]
  all_goals
    intro other hother
    obtain ⟨rfl, -⟩ := List.cons.inj hother
    exact absurd h (by decide)

theorem readNumber_minus_digit {c : Char} (h : c.isDigit = true) (rest : List Char) :
    readNumber limits ('-' :: c :: rest) = readUnsigned limits true (c :: rest) := by
  rw [readNumber]
  intro other hother
  obtain ⟨rfl, -⟩ := List.cons.inj hother
  exact absurd h (by decide)

theorem readNumber_int {n : Int} (hn : limits.allows (digitCount n) = true) {rest : List Char}
    (hrest : EndsNumber rest) :
    readNumber limits ((toString n).toList ++ rest) = .ok (.int n, rest) := by
  obtain ⟨c, digits, hdigits, hc⟩ := exists_natAbs_eq_cons n
  rw [toList_toString_int]
  by_cases hsign : n < 0
  · have hread := readUnsigned_toDigits true hn hrest
    rw [hdigits, List.cons_append] at hread
    rw [if_pos hsign, hdigits, List.singleton_append, List.cons_append, List.cons_append,
      readNumber_minus_digit hc, hread]
    have hvalue : -(n.natAbs : Int) = n := by omega
    simp only [if_true, hvalue]
  · have hread := readUnsigned_toDigits false hn hrest
    rw [hdigits, List.cons_append] at hread
    rw [if_neg hsign, hdigits, List.nil_append, List.cons_append, readNumber_digit hc,
      hread]
    have hvalue : (n.natAbs : Int) = n := by omega
    simp only [Bool.false_eq_true, if_false, hvalue]

/-! ## Strings -/

/-- An escaping that may be laid over a written text. -/
structure Harmless (safe : Char → List Char) : Prop where
  /-- Characters that occur outside strings and in escapes are kept. -/
  keeps : ∀ c : Char, c.toNat < 0x7F → c ≠ '<' → safe c = [c]
  /-- A character that stands for itself in a string is read from what replaces it. -/
  reads : ∀ c : Char, c ≠ '"' → c ≠ '\\' → 0x20 ≤ c.toNat → ∀ chars rest : List Char,
    readChars chars none (safe c ++ rest) = readChars (c :: chars) none rest

theorem hexValue?_hexDigit {k : Nat} (h : k < 16) :
    Text.hexValue? (Text.hexDigit k) = some k := by
  revert k
  decide

theorem hexDigit_kept {k : Nat} (h : k < 16) :
    (Text.hexDigit k).toNat < 0x7F ∧ Text.hexDigit k ≠ '<' := by
  revert k
  decide

theorem hexDigits_four (n : Nat) :
    Text.hexDigits 4 n = [Text.hexDigit (n / 16 / 16 / 16 % 16), Text.hexDigit (n / 16 / 16 % 16),
      Text.hexDigit (n / 16 % 16), Text.hexDigit (n % 16)] := rfl

theorem hexUnit?_hexDigits {n : Nat} (h : n < 0x10000) :
    hexUnit? (Text.hexDigit (n / 16 / 16 / 16 % 16)) (Text.hexDigit (n / 16 / 16 % 16))
      (Text.hexDigit (n / 16 % 16)) (Text.hexDigit (n % 16)) = some n := by
  have hdigit (m : Nat) : Text.hexValue? (Text.hexDigit (m % 16)) = some (m % 16) :=
    hexValue?_hexDigit (Nat.mod_lt m (by decide))
  rw [hexUnit?, hdigit, hdigit, hdigit, hdigit]
  show some _ = some n
  congr 1
  omega

/-- An escaped unit that is no surrogate stands for its character. -/
theorem addUnit_of_not_surrogate (chars : List Char) {c : Char} (hc : c.toNat < 0xD800) :
    addUnit chars none c.toNat = (c :: chars, none) := by
  have hmark : c ≠ Text.mark := by
    rintro rfl
    exact absurd hc (by decide)
  have hspell : Text.spell c.toNat = [c] := by
    rw [Text.spell, if_neg (Text.not_isSurrogate_toNat c), Char.ofNat_toNat, if_neg hmark]
  have hhigh : Text.isHighSurrogate c.toNat = false := by
    simp only [Text.isHighSurrogate, Bool.and_eq_false_iff, decide_eq_false_iff_not]
    omega
  simp only [addUnit, Option.filter_none, hspell, hhigh, Bool.false_eq_true, if_false]
  rfl

theorem readChars_unit (chars rest : List Char) {c : Char} (hc : c.toNat < 0xD800) :
    readChars chars none ('\\' :: 'u' :: Text.hexDigits 4 c.toNat ++ rest) =
      readChars (c :: chars) none rest := by
  rw [hexDigits_four]
  simp only [List.cons_append, List.nil_append]
  rw [readChars, hexUnit?_hexDigits (by omega)]
  simp only [addUnit_of_not_surrogate chars hc]

theorem readChars_letter (chars rest : List Char) {letter c : Char} (hletter : letter ≠ 'u')
    (h : escaped? letter = some c) :
    readChars chars none ('\\' :: letter :: rest) = readChars (c :: chars) none rest := by
  rw [readChars]
  · simp only [h]
  · intro a b d e other hother
    exact absurd hother hletter

theorem readChars_self (chars rest : List Char) {c : Char} (hquote : c ≠ '"') (hslash : c ≠ '\\')
    (hcontrol : 0x20 ≤ c.toNat) :
    readChars chars none (c :: rest) = readChars (c :: chars) none rest := by
  rw [readChars, if_neg (Nat.not_lt.mpr hcontrol)]
  · exact fun h => hquote h
  · exact fun _ _ _ _ _ h _ => hslash h
  · exact fun _ _ h _ => hslash h

variable {safe : Char → List Char}

/-- Escapes are kept by what is laid over them. -/
theorem Harmless.flatMap_eq (h : Harmless safe) {cs : List Char}
    (hcs : ∀ c ∈ cs, c.toNat < 0x7F ∧ c ≠ '<') : cs.flatMap safe = cs := by
  induction cs with
  | nil => rfl
  | cons c rest ih =>
    obtain ⟨hlow, hne⟩ := hcs c List.mem_cons_self
    rw [List.flatMap_cons, h.keeps c hlow hne, ih fun d hd => hcs d (List.mem_cons_of_mem c hd)]
    rfl

theorem Harmless.flatMap_eq_of_all (h : Harmless safe) {cs : List Char}
    (hcs : cs.all (fun c => c.toNat < 0x7F ∧ c ≠ '<') = true) : cs.flatMap safe = cs :=
  h.flatMap_eq (List.all_iff_forall_prop.mp hcs)

/-- One written character is read back. -/
theorem readChars_escapedChar (h : Harmless safe) (chars rest : List Char) (c : Char) :
    readChars chars none ((escapedChar c).flatMap safe ++ rest) =
      readChars (c :: chars) none rest := by
  have hkeep {cs : List Char} (hcs : cs.all (fun d => d.toNat < 0x7F ∧ d ≠ '<') = true) :
      cs.flatMap safe ++ rest = cs ++ rest := by
    rw [h.flatMap_eq_of_all hcs]
  rw [escapedChar]
  split
  · rename_i hc
    rw [hkeep (by decide), eq_of_beq hc]
    exact readChars_letter chars rest (by decide) rfl
  split
  · rename_i hc
    rw [hkeep (by decide), eq_of_beq hc]
    exact readChars_letter chars rest (by decide) rfl
  split
  · rename_i hc
    rw [hkeep (by decide), eq_of_beq hc]
    exact readChars_letter chars rest (by decide) rfl
  split
  · rename_i hc
    rw [hkeep (by decide), eq_of_beq hc]
    exact readChars_letter chars rest (by decide) rfl
  split
  · rename_i hc
    rw [hkeep (by decide), eq_of_beq hc]
    exact readChars_letter chars rest (by decide) rfl
  split
  · rename_i hc
    rw [hkeep (by decide), ← Char.ofNat_toNat c, eq_of_beq hc]
    exact readChars_letter chars rest (by decide) rfl
  split
  · rename_i hc
    rw [hkeep (by decide), ← Char.ofNat_toNat c, eq_of_beq hc]
    exact readChars_letter chars rest (by decide) rfl
  split
  · rename_i hc
    rw [h.flatMap_eq, readChars_unit chars rest (by omega)]
    intro d hd
    rw [hexDigits_four] at hd
    simp only [List.mem_cons, List.not_mem_nil, or_false] at hd
    rcases hd with rfl | rfl | rfl | rfl | rfl | rfl
    · decide
    · decide
    all_goals exact hexDigit_kept (Nat.mod_lt _ (by decide))
  · rename_i hquote hslash _ _ _ _ _ hcontrol
    rw [List.flatMap_singleton]
    exact h.reads c (by simpa using hquote) (by simpa using hslash) (by omega) chars rest

theorem readChars_written (h : Harmless safe) (cs chars rest : List Char) :
    readChars chars none ((cs.flatMap escapedChar).flatMap safe ++ '"' :: rest) =
      some (cs.reverse ++ chars, rest) := by
  induction cs generalizing chars with
  | nil => rfl
  | cons c cs ih =>
    rw [List.flatMap_cons, List.flatMap_append, List.append_assoc, readChars_escapedChar h, ih,
      List.reverse_cons, List.append_assoc]
    rfl

/-- A written string is read back after its opening quote. -/
theorem readString_written (h : Harmless safe) (s : String) (rest : List Char) :
    readString ((s.toList.flatMap escapedChar).flatMap safe ++ '"' :: rest) = .ok (s, rest) := by
  simp only [readString, readChars_written h, List.append_nil, List.reverse_reverse,
    String.ofList_toList]

/-! ## The escaping of script elements -/

theorem harmless_scriptSafeChar : Harmless scriptSafeChar where
  keeps c hlow hne := by
    have hfirst : ¬ (c.toNat == 0x2028) = true := by
      rw [beq_iff_eq]
      omega
    have hsecond : ¬ (c.toNat == 0x2029) = true := by
      rw [beq_iff_eq]
      omega
    rw [scriptSafeChar, if_neg (by simpa using hne), if_neg hfirst, if_neg hsecond]
  reads c hquote hslash hcontrol chars rest := by
    rw [scriptSafeChar]
    split
    · rename_i hc
      rw [eq_of_beq hc]
      exact readChars_unit chars rest (show '<'.toNat < 0xD800 by decide)
    split
    · rename_i hc
      have hunit := readChars_unit chars rest (show c.toNat < 0xD800 by rw [eq_of_beq hc]; decide)
      rw [eq_of_beq hc] at hunit
      exact hunit
    split
    · rename_i hc
      have hunit := readChars_unit chars rest (show c.toNat < 0xD800 by rw [eq_of_beq hc]; decide)
      rw [eq_of_beq hc] at hunit
      exact hunit
    · exact readChars_self chars rest hquote hslash hcontrol

end SalonBooking.Json
