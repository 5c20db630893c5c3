/-!
# Code points

A text is a sequence of code points.  Most of them are characters.  Surrogates
are not: a high one and a low one together write a character past the first
65,536, but a damaged text may hold one without the other.

A `String` holds characters only.  So a surrogate is spelled by two of them, a
mark and a character that is kept for it, and the mark itself, should a text
hold it, by two marks.  Every other character stands for itself.  What follows
a mark belongs to it, so spellings can be put one after another.

No encoding has a form for a surrogate: a text that holds one can be looked at,
but not be written.

* `codes_ofCodes`: the code points that a text was made of are read back.
* `plain_ofPlain`: so are characters, whichever they are.
-/

namespace SalonBooking.Text

/-! ## Surrogates -/

/-- The first half of a pair. -/
def isHighSurrogate (n : Nat) : Bool :=
  0xD800 ≤ n && n < 0xDC00

/-- The second half of a pair. -/
def isLowSurrogate (n : Nat) : Bool :=
  0xDC00 ≤ n && n < 0xE000

/-- Either half of a pair. -/
def isSurrogate (n : Nat) : Bool :=
  0xD800 ≤ n && n < 0xE000

/-- The code point that a pair writes. -/
def joinSurrogates (high low : Nat) : Nat :=
  0x10000 + (high - 0xD800) * 0x400 + (low - 0xDC00)

/-- The code points lie below this one. -/
def codeLimit : Nat := 0x110000

/-! ## Spelling -/

/-- The mark, a character of a plane in which none is assigned. -/
def mark : Char := Char.ofNat 0xDE000

/-- How far the character that is kept for a surrogate lies after it. -/
def keptShift : Nat := 0xD0000

/-- The characters that spell a code point. -/
def spell (n : Nat) : List Char :=
  if isSurrogate n then [mark, Char.ofNat (keptShift + n)]
  else if Char.ofNat n = mark then [mark, mark]
  else [Char.ofNat n]

/-- The code point that a character after a mark spells. -/
def markedCode (c : Char) : Nat :=
  if c = mark then c.toNat else c.toNat - keptShift

/-- The code points that some characters spell. -/
def unspell : List Char → List Nat
  | [] => []
  | [c] => [c.toNat]
  | c :: d :: rest =>
    if c = mark then markedCode d :: unspell rest else c.toNat :: unspell (d :: rest)

/-- The text of some code points. -/
def ofCodes (codes : List Nat) : String :=
  String.ofList (codes.flatMap spell)

/-- The code points of a text. -/
def codes (s : String) : List Nat :=
  if s.toList.contains mark then unspell s.toList else s.toList.map Char.toNat

/-- The text of some characters. -/
def ofPlain (s : String) : String :=
  ofCodes (s.toList.map Char.toNat)

/-- The characters of a text that holds no surrogates. -/
def plain (s : String) : String :=
  String.ofList ((codes s).map Char.ofNat)

/-- The number of code points of a text. -/
def length (s : String) : Nat :=
  (codes s).length

/-- Whether a text can be written: it holds no surrogates. -/
def isWritable (s : String) : Bool :=
  !(codes s).any isSurrogate

/-- The bytes of a text that can be written. -/
def utf8 (s : String) : ByteArray :=
  (plain s).toUTF8

/-! ## Reading back -/

theorem isSurrogate_iff {n : Nat} : isSurrogate n = true ↔ 0xD800 ≤ n ∧ n < 0xE000 := by
  simp [isSurrogate]

/-- No character is a surrogate. -/
theorem not_isSurrogate_toNat (c : Char) : ¬isSurrogate c.toNat = true := by
  have hvalid : c.toNat < 0xD800 ∨ 0xDFFF < c.toNat ∧ c.toNat < 0x110000 := c.valid
  rw [isSurrogate_iff]
  omega

/-- A code point that is no surrogate is that of its character. -/
theorem toNat_ofNat_of_not_surrogate {n : Nat} (hlimit : n < codeLimit)
    (h : ¬isSurrogate n = true) : (Char.ofNat n).toNat = n := by
  have hvalid : n.isValidChar := by
    rw [isSurrogate_iff] at h
    rw [codeLimit] at hlimit
    rw [Nat.isValidChar]
    omega
  rw [Char.ofNat, dif_pos hvalid]
  rfl

/-- The character kept for a surrogate is that many places after it. -/
theorem toNat_kept {n : Nat} (h : isSurrogate n = true) :
    (Char.ofNat (keptShift + n)).toNat = keptShift + n := by
  rw [isSurrogate_iff] at h
  refine toNat_ofNat_of_not_surrogate ?_ ?_
  · rw [keptShift, codeLimit]
    omega
  · rw [isSurrogate_iff, keptShift]
    omega

/-- The character kept for a surrogate spells it. -/
theorem markedCode_kept {n : Nat} (h : isSurrogate n = true) :
    markedCode (Char.ofNat (keptShift + n)) = n := by
  have hkept := toNat_kept h
  have hmark : mark.toNat = 0xDE000 := by decide
  rw [markedCode, if_neg, hkept, Nat.add_sub_cancel_left]
  intro heq
  rw [heq, hmark, keptShift] at hkept
  rw [isSurrogate_iff] at h
  omega

theorem unspell_cons_of_ne {c : Char} (h : c ≠ mark) (rest : List Char) :
    unspell (c :: rest) = c.toNat :: unspell rest := by
  cases rest with
  | nil => rfl
  | cons d rest => rw [unspell, if_neg h]

/-- A code point is read off the front of its spelling. -/
theorem unspell_spell_append {n : Nat} (h : n < codeLimit) (rest : List Char) :
    unspell (spell n ++ rest) = n :: unspell rest := by
  rw [spell]
  split
  · rename_i hs
    rw [List.cons_append, List.cons_append, List.nil_append, unspell, if_pos rfl,
      markedCode_kept hs]
  · rename_i hs
    split
    · rename_i hmark
      rw [List.cons_append, List.cons_append, List.nil_append, unspell, if_pos rfl, markedCode,
        if_pos rfl, ← hmark, toNat_ofNat_of_not_surrogate h hs]
    · rename_i hmark
      rw [List.cons_append, List.nil_append, unspell_cons_of_ne hmark,
        toNat_ofNat_of_not_surrogate h hs]

theorem unspell_flatMap_spell {ns : List Nat} (h : ∀ n ∈ ns, n < codeLimit) :
    unspell (ns.flatMap spell) = ns := by
  induction ns with
  | nil => rfl
  | cons n ns ih =>
    rw [List.flatMap_cons, unspell_spell_append (h n List.mem_cons_self),
      ih fun m hm => h m (List.mem_cons_of_mem n hm)]

/-- Without a mark every character stands for itself. -/
theorem unspell_of_not_mem {cs : List Char} (h : mark ∉ cs) : unspell cs = cs.map Char.toNat := by
  induction cs with
  | nil => rfl
  | cons c cs ih =>
    rw [unspell_cons_of_ne fun heq => h (heq ▸ List.mem_cons_self),
      ih fun hmem => h (List.mem_cons_of_mem c hmem), List.map_cons]

theorem codes_eq_unspell (s : String) : codes s = unspell s.toList := by
  rw [codes]
  split
  · rfl
  · rename_i h
    rw [unspell_of_not_mem (by simpa using h)]

/-- The code points that a text was made of are read back. -/
theorem codes_ofCodes {ns : List Nat} (h : ∀ n ∈ ns, n < codeLimit) : codes (ofCodes ns) = ns := by
  rw [codes_eq_unspell, ofCodes, String.toList_ofList, unspell_flatMap_spell h]

/-- A character lies below the limit of code points. -/
theorem toNat_lt_codeLimit (c : Char) : c.toNat < codeLimit := by
  have hvalid : c.toNat < 0xD800 ∨ 0xDFFF < c.toNat ∧ c.toNat < 0x110000 := c.valid
  simp only [codeLimit]
  omega

theorem codes_ofPlain (s : String) : codes (ofPlain s) = s.toList.map Char.toNat := by
  refine codes_ofCodes fun n hn => ?_
  obtain ⟨c, -, rfl⟩ := List.mem_map.1 hn
  exact toNat_lt_codeLimit c

/-- The characters that a text was made of are read back. -/
theorem plain_ofPlain (s : String) : plain (ofPlain s) = s := by
  have hback : (s.toList.map Char.toNat).map Char.ofNat = s.toList := by
    simp [List.map_map, Function.comp_def]
  rw [plain, codes_ofPlain, hback, String.ofList_toList]

end SalonBooking.Text
