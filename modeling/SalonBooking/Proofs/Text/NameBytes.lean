import SalonBooking.Text.NameBytes

/-!
# Names of characters

Without surrogates the bytes of a name are its UTF-8, and tell the name.
-/

namespace SalonBooking.Text

variable {s t : String}

/-- A text of characters, without surrogates. -/
def IsPlain (s : String) : Prop := ofPlain (plain s) = s

instance (s : String) : Decidable (IsPlain s) := inferInstanceAs (Decidable (_ = _))

theorem isPlain_ofPlain (s : String) : IsPlain (ofPlain s) := by
  rw [IsPlain, plain_ofPlain]

theorem IsPlain.append (hs : IsPlain s) (ht : IsPlain t) : IsPlain (s ++ t) := by
  have hjoined : ofPlain (plain s ++ plain t) = ofPlain (plain s) ++ ofPlain (plain t) := by
    simp only [ofPlain, ofCodes, String.toList_append, List.map_append, List.flatMap_append,
      String.ofList_append]
  rw [hs, ht] at hjoined
  rw [← hjoined]
  exact isPlain_ofPlain _

theorem codeBytes_toNat (c : Char) : codeBytes c.toNat = String.utf8EncodeChar c := by
  have hescape : ¬isByteEscape c.toNat = true := by
    have hcharacter := not_isSurrogate_toNat c
    rw [isSurrogate_iff] at hcharacter
    rw [isByteEscape, Bool.and_eq_true, decide_eq_true_iff, decide_eq_true_iff]
    omega
  rw [codeBytes, if_neg hescape, Char.ofNat_toNat]

/-- Every text without a mark can be a name. -/
theorem hasNameBytes_of_not_mem (h : mark ∉ s.toList) : hasNameBytes s = true := by
  rw [hasNameBytes, codes_eq_unspell, unspell_of_not_mem h, List.all_eq_true]
  intro code hcode
  obtain ⟨c, -, rfl⟩ := List.mem_map.mp hcode
  rw [Bool.eq_false_iff.mpr (not_isSurrogate_toNat c)]
  rfl

/-- Without a mark, the bytes of a name are those of its characters. -/
theorem nameBytes_of_not_mem (h : mark ∉ s.toList) :
    nameBytes s = s.toList.flatMap String.utf8EncodeChar := by
  rw [nameBytes, codes_eq_unspell, unspell_of_not_mem h, List.flatMap_map]
  simp only [codeBytes_toNat]

/-- The bytes of a name of characters are its UTF-8. -/
theorem nameBytes_of_isPlain (h : IsPlain s) : nameBytes s = (utf8 s).data.toList := by
  have hcodes := codes_ofPlain (plain s)
  rw [h] at hcodes
  have hutf8 (u : String) : u.toUTF8.data.toList = u.toList.flatMap String.utf8EncodeChar := by
    rw [String.toUTF8, ← String.utf8Encode_toList, List.utf8Encode, List.data_toByteArray]
  rw [nameBytes, hcodes, utf8, hutf8, List.flatMap_map]
  simp only [codeBytes_toNat]

/-- Names of characters with the same bytes are the same. -/
theorem eq_of_nameBytes (hs : IsPlain s) (ht : IsPlain t) (h : nameBytes s = nameBytes t) :
    s = t := by
  rw [nameBytes_of_isPlain hs, nameBytes_of_isPlain ht] at h
  have hbytes : utf8 s = utf8 t := ByteArray.ext (Array.toList_inj.mp h)
  rw [← hs, ← ht, String.toByteArray_inj.mp hbytes]

end SalonBooking.Text
