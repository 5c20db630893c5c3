import SalonBooking.Text.CodePoint
import SalonBooking.Text.Lines

/-!
# Line ends and bytes

What becomes of a text that is written as bytes and read back with unified line
ends: it is the text itself exactly if there is no `\r` in it.

Unifying works on the characters by which a text is spelled.  It comes to the
same before the spelling and after it (`unifyLineEnds_ofPlain`), since no
character of a line end is spelled by others.
-/

namespace SalonBooking.Text

/-! ## Unified line ends -/

theorem unifyEnds_cons_of_ne {c : Char} (h : c ≠ '\r') (rest : List Char) :
    unifyEnds (c :: rest) = c :: unifyEnds rest := by
  rw [unifyEnds]
  · rintro rest rfl
    exact absurd rfl h
  · exact h

theorem unifyEnds_return {rest : List Char} (h : ∀ after, rest ≠ '\n' :: after) :
    unifyEnds ('\r' :: rest) = '\n' :: unifyEnds rest := by
  rw [unifyEnds]
  exact h

/-- A part without `\r` stays as it is in front of the rest. -/
theorem unifyEnds_append_of_notMem {front : List Char} (h : '\r' ∉ front) (rest : List Char) :
    unifyEnds (front ++ rest) = front ++ unifyEnds rest := by
  induction front with
  | nil => rfl
  | cons c front ih =>
    have hc : c ≠ '\r' := fun heq => h (heq ▸ List.mem_cons_self)
    rw [List.cons_append, unifyEnds_cons_of_ne hc, ih fun hmem => h (List.mem_cons_of_mem c hmem),
      List.cons_append]

/-- No `\r` is left. -/
theorem notMem_unifyEnds (cs : List Char) : '\r' ∉ unifyEnds cs := by
  fun_induction unifyEnds cs with
  | case1 rest ih => simpa using ih
  | case2 rest _ ih => simpa using ih
  | case3 c rest _ hc ih => simpa using ⟨Ne.symm hc, ih⟩
  | case4 => exact List.not_mem_nil

theorem notMem_unifyLineEnds (s : String) : '\r' ∉ (unifyLineEnds s).toList := by
  rw [unifyLineEnds, String.toList_ofList]
  exact notMem_unifyEnds _

theorem unifyLineEnds_eq_self {s : String} : unifyLineEnds s = s ↔ '\r' ∉ s.toList := by
  constructor
  · intro h
    rw [← h]
    exact notMem_unifyLineEnds s
  · intro h
    rw [unifyLineEnds, unifyEnds_eq_self h, String.ofList_toList]

/-! ## Spelling -/

/-- A character stands for itself, and the mark for two of it. -/
theorem spell_toNat (c : Char) : spell c.toNat = if c = mark then [mark, mark] else [c] := by
  rw [spell, if_neg (not_isSurrogate_toNat c), Char.ofNat_toNat]

theorem notMem_spell {c : Char} (h : c ≠ '\r') : '\r' ∉ spell c.toNat := by
  have hmark : '\r' ≠ mark := by decide
  rw [spell_toNat]
  split
  · simpa using hmark
  · simpa using h.symm

/-- A line end is spelled by itself, so unifying goes past the spelling. -/
theorem unifyEnds_flatMap_spell (cs : List Char) :
    unifyEnds (cs.flatMap fun c => spell c.toNat) =
      (unifyEnds cs).flatMap fun c => spell c.toNat := by
  have hreturn : spell '\r'.toNat = ['\r'] := by decide
  have hfeed : spell '\n'.toNat = ['\n'] := by decide
  fun_induction unifyEnds cs with
  | case1 rest ih =>
    rw [List.flatMap_cons, List.flatMap_cons, hreturn, hfeed, List.flatMap_cons, hfeed]
    exact congrArg ('\n' :: ·) ih
  | case2 rest hrest ih =>
    rw [List.flatMap_cons, List.flatMap_cons, hreturn, hfeed, ← ih]
    refine unifyEnds_return fun after hspelled => ?_
    cases rest with
    | nil => cases hspelled
    | cons c rest =>
      rw [List.flatMap_cons, spell_toNat] at hspelled
      split at hspelled
      · exact absurd (List.cons.inj hspelled).1 (by decide)
      · exact hrest rest (by rw [(List.cons.inj hspelled).1])
  | case3 c rest _ hc ih =>
    have hspell : '\r' ∉ spell c.toNat := notMem_spell hc
    rw [List.flatMap_cons, unifyEnds_append_of_notMem hspell, ih, List.flatMap_cons]
  | case4 => rfl

theorem unifyLineEnds_ofPlain (s : String) :
    unifyLineEnds (ofPlain s) = ofPlain (unifyLineEnds s) := by
  have hspelled (cs : List Char) : (cs.map Char.toNat).flatMap spell =
      cs.flatMap fun c => spell c.toNat := List.flatMap_map ..
  rw [unifyLineEnds, unifyLineEnds, ofPlain, ofPlain, ofCodes, ofCodes, String.toList_ofList,
    String.toList_ofList, hspelled, hspelled, unifyEnds_flatMap_spell]

/-! ## Bytes -/

/-- The bytes of a text that was read with unified line ends. -/
theorem utf8_unifyLineEnds_ofPlain (s : String) :
    utf8 (unifyLineEnds (ofPlain s)) = (unifyLineEnds s).toUTF8 := by
  rw [utf8, unifyLineEnds_ofPlain, plain_ofPlain]

theorem fromUTF8?_toUTF8 (s : String) : String.fromUTF8? s.toUTF8 = some s := by
  have hvalid : s.toUTF8.IsValidUTF8 := s.isValidUTF8
  rw [String.fromUTF8?, dif_pos hvalid]
  rfl

theorem toUTF8_of_fromUTF8? {bytes : ByteArray} {s : String} (h : String.fromUTF8? bytes = some s) :
    s.toUTF8 = bytes := by
  unfold String.fromUTF8? at h
  split at h
  · rw [← Option.some.inj h]
    rfl
  · cases h

end SalonBooking.Text
