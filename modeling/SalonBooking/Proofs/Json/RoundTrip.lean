import SalonBooking.Proofs.Data.Assoc
import SalonBooking.Proofs.Json.Tokens

/-!
# Reading back what is written

The text of a value is read back as that value, whether it was written as it is
(`Json.print`) or for the body of a script element (`Json.embed`).

What is asked of the value is that it is `IsPlain`: it holds no binary numbers,
and no name twice in one object.  A machine reads it if its integers `fits` the
machine and its `depth` is within the room; one that is `IsReadable` is read by
every machine that has so much room.

`readValue_write` is the statement about the front of a longer text, by
induction over the value together with its items and members.  The reader
spends at most two units of fuel for each character: a value of `n`
characters needs `2 * n - 1` of them, its items and members `2 * n`.
-/

namespace SalonBooking

namespace Json

/-! ## Values that can be read back -/

mutual

/-- Whether a value has no binary numbers, and every name once. -/
def IsPlain : Json → Prop
  | .null => True
  | .bool _ => True
  | .int _ => True
  | .float _ => False
  | .str _ => True
  | .arr vs => ArePlain vs
  | .obj ms => (Assoc.keys ms).Nodup ∧ MembersArePlain ms

/-- The same for all items of an array. -/
def ArePlain : List Json → Prop
  | [] => True
  | v :: rest => IsPlain v ∧ ArePlain rest

/-- The same for all members of an object. -/
def MembersArePlain : List (String × Json) → Prop
  | [] => True
  | (_, v) :: rest => IsPlain v ∧ MembersArePlain rest

end

mutual

/-- How many arrays and objects stand inside each other in a value, itself included. -/
def depth : Json → Nat
  | .null => 0
  | .bool _ => 0
  | .int _ => 0
  | .float _ => 0
  | .str _ => 0
  | .arr vs => itemsDepth vs + 1
  | .obj ms => membersDepth ms + 1

/-- The greatest depth of some items. -/
def itemsDepth : List Json → Nat
  | [] => 0
  | v :: rest => max (depth v) (itemsDepth rest)

/-- The greatest depth of the values of some members. -/
def membersDepth : List (String × Json) → Nat
  | [] => 0
  | (_, v) :: rest => max (depth v) (membersDepth rest)

end

/-- Whether a value is read back by every reader that has some room. -/
structure IsReadable (v : Json) (room : Nat) : Prop where
  plain : v.IsPlain
  depth_le : v.depth ≤ room
  digits_le : v.digits ≤ leastMaxDigits

theorem IsReadable.fits {v : Json} {room : Nat} (hv : v.IsReadable room) (limits : Limits) :
    v.fits limits = true :=
  Limits.allows_of_le hv.digits_le

@[simp] theorem isReadable_str (s : String) (room : Nat) : (Json.str s).IsReadable room :=
  ⟨trivial, Nat.zero_le room, Nat.zero_le _⟩

@[simp] theorem isReadable_bool (b : Bool) (room : Nat) : (Json.bool b).IsReadable room :=
  ⟨trivial, Nat.zero_le room, Nat.zero_le _⟩

theorem isReadable_int {n : Int} (h : n.natAbs < tenTo leastMaxDigits) (room : Nat) :
    (Json.int n).IsReadable room :=
  ⟨trivial, Nat.zero_le room, digitCount_le h⟩

theorem isReadable_arr {vs : List Json} {room : Nat} (h : ∀ v ∈ vs, v.IsReadable room) :
    (Json.arr vs).IsReadable (room + 1) := by
  have hitems : ArePlain vs ∧ itemsDepth vs ≤ room ∧ itemsDigits vs ≤ leastMaxDigits := by
    induction vs with
    | nil => exact ⟨trivial, Nat.zero_le room, Nat.zero_le _⟩
    | cons v rest ih =>
      obtain ⟨hplain, hdepth, hdigits⟩ := h v List.mem_cons_self
      obtain ⟨hrest, hrestDepth, hrestDigits⟩ := ih fun w hw => h w (List.mem_cons_of_mem v hw)
      exact ⟨⟨hplain, hrest⟩, Nat.max_le.mpr ⟨hdepth, hrestDepth⟩,
        Nat.max_le.mpr ⟨hdigits, hrestDigits⟩⟩
  exact ⟨hitems.1, Nat.succ_le_succ hitems.2.1, hitems.2.2⟩

theorem isReadable_obj {ms : List (String × Json)} {room : Nat} (hkeys : (Assoc.keys ms).Nodup)
    (h : ∀ entry ∈ ms, entry.2.IsReadable room) : (Json.obj ms).IsReadable (room + 1) := by
  have hmembers :
      MembersArePlain ms ∧ membersDepth ms ≤ room ∧ membersDigits ms ≤ leastMaxDigits := by
    clear hkeys
    induction ms with
    | nil => exact ⟨trivial, Nat.zero_le room, Nat.zero_le _⟩
    | cons entry rest ih =>
      obtain ⟨hplain, hdepth, hdigits⟩ := h entry List.mem_cons_self
      obtain ⟨hrest, hrestDepth, hrestDigits⟩ :=
        ih fun other hother => h other (List.mem_cons_of_mem entry hother)
      exact ⟨⟨hplain, hrest⟩, Nat.max_le.mpr ⟨hdepth, hrestDepth⟩,
        Nat.max_le.mpr ⟨hdigits, hrestDigits⟩⟩
  exact ⟨⟨hkeys, hmembers.1⟩, Nat.succ_le_succ hmembers.2.1, hmembers.2.2⟩

/-! ## Where tokens begin -/

/-- A character that starts a value: no blank, and no bracket that closes an array. -/
def StartsValue (c : Char) : Prop :=
  isSpace c = false ∧ c ≠ ']'

theorem skipSpace_cons {c : Char} (h : isSpace c = false) (rest : List Char) :
    skipSpace (c :: rest) = c :: rest := by
  rw [skipSpace, List.dropWhile_cons, h, if_neg Bool.false_ne_true]

/-- A character that starts an integer. -/
def StartsInt (c : Char) : Prop :=
  c.isDigit = true ∨ c = '-'

theorem StartsInt.ne {c : Char} (h : StartsInt c) {d : Char} (hdigit : d.isDigit = false)
    (hsign : d ≠ '-') : c ≠ d := by
  rintro rfl
  rcases h with h | h
  · rw [hdigit] at h
    exact Bool.noConfusion h
  · exact hsign h

theorem StartsInt.startsValue {c : Char} (h : StartsInt c) : StartsValue c := by
  refine ⟨?_, h.ne rfl (by decide)⟩
  rw [isSpace, beq_false_of_ne (h.ne (d := ' ') rfl (by decide)),
    beq_false_of_ne (h.ne (d := '\n') rfl (by decide)),
    beq_false_of_ne (h.ne (d := '\r') rfl (by decide)),
    beq_false_of_ne (h.ne (d := '\t') rfl (by decide))]
  rfl

section

variable {safe : Char → List Char}

/-- The characters of an integer are kept by an escaping. -/
theorem Harmless.flatMap_int (h : Harmless safe) (n : Int) :
    (toString n).toList.flatMap safe = (toString n).toList := by
  refine h.flatMap_eq fun c hc => ?_
  rcases eq_minus_or_isDigit_of_mem_int hc with rfl | hdigit
  · decide
  · obtain ⟨-, hhigh⟩ := Text.toNat_of_isDigit hdigit
    refine ⟨by omega, ?_⟩
    rintro rfl
    exact absurd hhigh (by decide)

theorem Harmless.flatMap_cons (h : Harmless safe) {c : Char} (hlow : c.toNat < 0x7F)
    (hne : c ≠ '<') (rest : List Char) : (c :: rest).flatMap safe = c :: rest.flatMap safe := by
  rw [List.flatMap_cons, h.keeps c hlow hne]
  rfl

/-- A written string, with its quotes in sight. -/
theorem flatMap_writeString (h : Harmless safe) (s : String) :
    (writeString s).flatMap safe = '"' :: (s.toList.flatMap escapedChar).flatMap safe ++ ['"'] := by
  rw [writeString, List.cons_append, h.flatMap_cons (by decide) (by decide), List.flatMap_append,
    h.flatMap_cons (by decide) (by decide)]
  rfl

theorem exists_int_eq_cons (n : Int) :
    ∃ c rest, (toString n).toList = c :: rest ∧ StartsInt c := by
  obtain ⟨c, digits, hdigits, hc⟩ := exists_natAbs_eq_cons n
  rw [toList_toString_int, hdigits]
  split
  · exact ⟨'-', c :: digits, rfl, Or.inr rfl⟩
  · exact ⟨c, digits, rfl, Or.inl hc⟩

/-- The text of a plain value starts with a character that starts values. -/
theorem exists_write_eq_cons (h : Harmless safe) {v : Json} (hv : v.IsPlain) :
    ∃ c rest, v.write.flatMap safe = c :: rest ∧ StartsValue c := by
  cases v with
  | null => exact ⟨'n', _, h.flatMap_cons (by decide) (by decide) _, by decide, by decide⟩
  | bool b =>
    cases b
    · exact ⟨'f', _, h.flatMap_cons (by decide) (by decide) _, by decide, by decide⟩
    · exact ⟨'t', _, h.flatMap_cons (by decide) (by decide) _, by decide, by decide⟩
  | int n =>
    obtain ⟨c, rest, hc, hstart⟩ := exists_int_eq_cons n
    rw [write, h.flatMap_int]
    exact ⟨c, rest, hc, hstart.startsValue⟩
  | float x => exact hv.elim
  | str s =>
    rw [write, flatMap_writeString h]
    exact ⟨'"', _, rfl, by decide, by decide⟩
  | arr vs => exact ⟨'[', _, h.flatMap_cons (by decide) (by decide) _, by decide, by decide⟩
  | obj ms => exact ⟨'\x7b', _, h.flatMap_cons (by decide) (by decide) _, by decide, by decide⟩

theorem writeItems_cons_cons (v w : Json) (vs : List Json) :
    writeItems (v :: w :: vs) = v.write ++ ',' :: writeItems (w :: vs) := by
  rw [writeItems]
  simp

theorem writeMembers_cons_cons (key : String) (v : Json) (entry : String × Json)
    (ms : List (String × Json)) :
    writeMembers ((key, v) :: entry :: ms) =
      writeString key ++ ':' :: v.write ++ ',' :: writeMembers (entry :: ms) := by
  rw [writeMembers]
  simp

theorem flatMap_write_arr (h : Harmless safe) (vs : List Json) :
    (Json.arr vs).write.flatMap safe = '[' :: (writeItems vs).flatMap safe ++ [']'] := by
  rw [write, List.cons_append, h.flatMap_cons (by decide) (by decide), List.flatMap_append,
    h.flatMap_cons (by decide) (by decide)]
  rfl

theorem flatMap_write_obj (h : Harmless safe) (ms : List (String × Json)) :
    (Json.obj ms).write.flatMap safe = '\x7b' :: (writeMembers ms).flatMap safe ++ ['\x7d'] := by
  rw [write, List.cons_append, h.flatMap_cons (by decide) (by decide), List.flatMap_append,
    h.flatMap_cons (by decide) (by decide)]
  rfl

theorem flatMap_writeItems (h : Harmless safe) (v w : Json) (vs : List Json) :
    (writeItems (v :: w :: vs)).flatMap safe =
      v.write.flatMap safe ++ ',' :: (writeItems (w :: vs)).flatMap safe := by
  rw [writeItems_cons_cons, List.flatMap_append, h.flatMap_cons (by decide) (by decide)]

theorem flatMap_writeMember (h : Harmless safe) (key : String) (v : Json) :
    (writeMembers [(key, v)]).flatMap safe =
      '"' :: (key.toList.flatMap escapedChar).flatMap safe ++
        '"' :: ':' :: v.write.flatMap safe := by
  rw [writeMembers, List.flatMap_append, flatMap_writeString h,
    h.flatMap_cons (by decide) (by decide), List.append_assoc, List.singleton_append]

theorem flatMap_writeMembers (h : Harmless safe) (key : String) (v : Json)
    (entry : String × Json) (ms : List (String × Json)) :
    (writeMembers ((key, v) :: entry :: ms)).flatMap safe =
      '"' :: (key.toList.flatMap escapedChar).flatMap safe ++
        '"' :: ':' :: v.write.flatMap safe ++ ',' :: (writeMembers (entry :: ms)).flatMap safe := by
  rw [writeMembers_cons_cons, List.flatMap_append, List.flatMap_append, flatMap_writeString h,
    h.flatMap_cons (by decide) (by decide), h.flatMap_cons (by decide) (by decide),
    List.append_assoc _ ['"'], List.singleton_append]

/-- The text of the items of an array starts a value. -/
theorem exists_writeItems_eq_cons (h : Harmless safe) {v : Json} (hv : v.IsPlain)
    (vs : List Json) :
    ∃ c rest, (writeItems (v :: vs)).flatMap safe = c :: rest ∧ StartsValue c := by
  obtain ⟨c, rest, hc, hstart⟩ := exists_write_eq_cons h hv
  cases vs with
  | nil => exact ⟨c, rest, hc, hstart⟩
  | cons w vs =>
    refine ⟨c, rest ++ (',' :: writeItems (w :: vs)).flatMap safe, ?_, hstart⟩
    rw [writeItems_cons_cons, List.flatMap_append, hc, List.cons_append]

/-- The text of the members of an object starts with a quote. -/
theorem exists_writeMembers_eq_cons (h : Harmless safe) (entry : String × Json)
    (ms : List (String × Json)) :
    ∃ rest, (writeMembers (entry :: ms)).flatMap safe = '"' :: rest := by
  obtain ⟨key, v⟩ := entry
  have hstart (rest : List Char) :
      ∃ more, (writeString key ++ rest).flatMap safe = '"' :: more := by
    rw [List.flatMap_append, flatMap_writeString h]
    exact ⟨_, rfl⟩
  cases ms with
  | nil => exact hstart _
  | cons next ms =>
    rw [writeMembers_cons_cons, List.append_assoc]
    exact hstart _

theorem skipSpace_write (h : Harmless safe) {v : Json} (hv : v.IsPlain) (rest : List Char) :
    skipSpace (v.write.flatMap safe ++ rest) = v.write.flatMap safe ++ rest := by
  obtain ⟨c, text, hc, hstart⟩ := exists_write_eq_cons h hv
  rw [hc, List.cons_append, skipSpace_cons hstart.1]

/-! ## Reading values -/

theorem readValue_string (limits : Limits) (fuel room : Nat) (rest : List Char) :
    readValue limits (fuel + 1) room ('"' :: rest) =
      (readString rest).map fun (s, rest) => (.str s, rest) := by
  rw [readValue]

/-- A digit or a sign starts a number. -/
theorem readValue_number (limits : Limits) (fuel room : Nat) {c : Char} (hc : StartsInt c)
    (rest : List Char) :
    readValue limits (fuel + 1) room (c :: rest) = readNumber limits (c :: rest) := by
  rw [readValue]
  all_goals
    intro other hother
    refine hc.ne ?_ ?_ (List.cons.inj hother).1
    all_goals decide

theorem readValue_array (limits : Limits) (fuel room : Nat) {c : Char} (hc : StartsValue c)
    (rest : List Char) :
    readValue limits (fuel + 1) (room + 1) ('[' :: c :: rest) =
      (readItems limits fuel room (c :: rest)).map fun (vs, rest) => (.arr vs, rest) := by
  rw [readValue]
  simp only [skipSpace_cons hc.1]
  split
  · rename_i heq
    exact absurd (List.cons.inj heq).1 hc.2
  · rfl

theorem readValue_object (limits : Limits) (fuel room : Nat) (rest : List Char) :
    readValue limits (fuel + 1) (room + 1) ('\x7b' :: '"' :: rest) =
      (readMembers limits fuel room ('"' :: rest)).map fun (ms, rest) =>
        (.obj (Assoc.ofPairs ms), rest) := by
  rw [readValue]
  rfl

/-- A value has at least one character, so there is fuel for it. -/
theorem exists_fuel (h : Harmless safe) {v : Json} (hv : v.IsPlain) {fuel : Nat}
    (hfuel : 2 * (v.write.flatMap safe).length ≤ fuel + 1) : ∃ k, fuel = k + 1 := by
  obtain ⟨c, rest, hc, -⟩ := exists_write_eq_cons h hv
  rw [hc, List.length_cons] at hfuel
  exact ⟨fuel - 1, by omega⟩

mutual

/-- A written value is read back from the front of a longer text. -/
theorem readValue_write (h : Harmless safe) (limits : Limits) :
    ∀ (v : Json) (fuel room : Nat) (rest : List Char), v.IsPlain → limits.allows v.digits = true →
    2 * (v.write.flatMap safe).length ≤ fuel + 1 → v.depth ≤ room → EndsNumber rest →
    readValue limits fuel room (v.write.flatMap safe ++ rest) = .ok (v, rest)
  | .null, fuel, room, rest, hv, _, hfuel, _, _ => by
    obtain ⟨fuel, rfl⟩ := exists_fuel h hv hfuel
    rw [write, h.flatMap_eq_of_all (by decide)]
    rfl
  | .bool true, fuel, room, rest, hv, _, hfuel, _, _ => by
    obtain ⟨fuel, rfl⟩ := exists_fuel h hv hfuel
    rw [write, h.flatMap_eq_of_all (by decide)]
    rfl
  | .bool false, fuel, room, rest, hv, _, hfuel, _, _ => by
    obtain ⟨fuel, rfl⟩ := exists_fuel h hv hfuel
    rw [write, h.flatMap_eq_of_all (by decide)]
    rfl
  | .int n, fuel, room, rest, hv, hdigits, hfuel, _, hrest => by
    obtain ⟨fuel, rfl⟩ := exists_fuel h hv hfuel
    rw [digits] at hdigits
    have hread := readNumber_int hdigits hrest
    obtain ⟨c, text, htext, hc⟩ := exists_int_eq_cons n
    rw [write, h.flatMap_int]
    rw [htext, List.cons_append] at hread ⊢
    rw [readValue_number limits fuel room hc, hread]
  | .float x, _, _, _, hv, _, _, _, _ => hv.elim
  | .str s, fuel, room, rest, hv, _, hfuel, _, _ => by
    obtain ⟨fuel, rfl⟩ := exists_fuel h hv hfuel
    rw [write, flatMap_writeString h, List.append_assoc, List.cons_append, readValue_string,
      List.singleton_append, readString_written h]
    rfl
  | .arr [], fuel, room, rest, hv, _, hfuel, hroom, _ => by
    obtain ⟨fuel, rfl⟩ := exists_fuel h hv hfuel
    obtain ⟨room, rfl⟩ : ∃ k, room = k + 1 := ⟨room - 1, by rw [depth] at hroom; omega⟩
    rw [write, writeItems, h.flatMap_eq_of_all (by decide)]
    rfl
  | .arr (v :: vs), fuel, room, rest, hv, hdigits, hfuel, hroom, _ => by
    obtain ⟨fuel, rfl⟩ := exists_fuel h hv hfuel
    obtain ⟨room, rfl⟩ : ∃ k, room = k + 1 := ⟨room - 1, by rw [depth] at hroom; omega⟩
    rw [flatMap_write_arr h] at hfuel ⊢
    simp only [List.length_append, List.length_cons, List.length_nil] at hfuel
    rw [digits] at hdigits
    have hitems := readItems_write h limits (v :: vs) fuel room rest (by simp) hv hdigits
      (by omega) (by rw [depth] at hroom; omega)
    obtain ⟨c, text, hc, hstart⟩ := exists_writeItems_eq_cons h hv.1 vs
    rw [hc, List.cons_append] at hitems
    rw [hc, List.append_assoc, List.cons_append, List.cons_append, readValue_array _ _ _ hstart,
      List.singleton_append, hitems]
    rfl
  | .obj [], fuel, room, rest, hv, _, hfuel, hroom, _ => by
    obtain ⟨fuel, rfl⟩ := exists_fuel h hv hfuel
    obtain ⟨room, rfl⟩ : ∃ k, room = k + 1 := ⟨room - 1, by rw [depth] at hroom; omega⟩
    rw [write, writeMembers, h.flatMap_eq_of_all (by decide)]
    rfl
  | .obj (entry :: ms), fuel, room, rest, hv, hdigits, hfuel, hroom, _ => by
    obtain ⟨fuel, rfl⟩ := exists_fuel h hv hfuel
    obtain ⟨room, rfl⟩ : ∃ k, room = k + 1 := ⟨room - 1, by rw [depth] at hroom; omega⟩
    rw [flatMap_write_obj h] at hfuel ⊢
    simp only [List.length_append, List.length_cons, List.length_nil] at hfuel
    rw [digits] at hdigits
    have hmembers := readMembers_write h limits (entry :: ms) fuel room rest (by simp) hv.2
      hdigits (by omega) (by rw [depth] at hroom; omega)
    obtain ⟨text, hc⟩ := exists_writeMembers_eq_cons h entry ms
    rw [hc, List.cons_append] at hmembers
    rw [hc, List.append_assoc, List.cons_append, List.cons_append, readValue_object,
      List.singleton_append, hmembers]
    show Except.ok (Json.obj (Assoc.ofPairs (entry :: ms)), rest) = _
    rw [Assoc.ofPairs_of_nodup hv.1]

/-- The written items of an array are read back up to the closing bracket. -/
theorem readItems_write (h : Harmless safe) (limits : Limits) :
    ∀ (vs : List Json) (fuel room : Nat) (rest : List Char), vs ≠ [] → ArePlain vs →
    limits.allows (itemsDigits vs) = true → 2 * ((writeItems vs).flatMap safe).length ≤ fuel →
    itemsDepth vs ≤ room →
    readItems limits fuel room ((writeItems vs).flatMap safe ++ ']' :: rest) = .ok (vs, rest)
  | [], _, _, _, hne, _, _, _, _ => absurd rfl hne
  | [v], fuel, room, rest, _, hv, hdigits, hfuel, hroom => by
    rw [writeItems] at hfuel ⊢
    rw [itemsDigits, Limits.allows_max, Bool.and_eq_true] at hdigits
    obtain ⟨fuel, rfl⟩ := exists_fuel h hv.1 (Nat.le_succ_of_le hfuel)
    have hvalue := readValue_write h limits v fuel room (']' :: rest) hv.1 hdigits.1 hfuel
      (by rw [itemsDepth] at hroom; omega) (endsNumber_cons rest (by decide) (by decide))
    rw [readItems, hvalue]
    rfl
  | v :: w :: vs, fuel, room, rest, _, hv, hdigits, hfuel, hroom => by
    rw [flatMap_writeItems h] at hfuel ⊢
    simp only [List.length_append, List.length_cons] at hfuel
    obtain ⟨fuel, rfl⟩ : ∃ k, fuel = k + 1 := ⟨fuel - 1, by omega⟩
    rw [itemsDepth] at hroom
    rw [itemsDigits, Limits.allows_max, Bool.and_eq_true] at hdigits
    have hvalue := readValue_write h limits v fuel room
      (',' :: ((writeItems (w :: vs)).flatMap safe ++ ']' :: rest)) hv.1 hdigits.1 (by omega)
      (by omega) (endsNumber_cons _ (by decide) (by decide))
    have hitems := readItems_write h limits (w :: vs) fuel room rest (by simp) hv.2 hdigits.2
      (by omega) (by omega)
    obtain ⟨c, text, hc, hstart⟩ := exists_writeItems_eq_cons h hv.2.1 vs
    rw [List.append_assoc, List.cons_append, readItems, hvalue]
    rw [hc, List.cons_append] at hitems ⊢
    show (readItems limits fuel room (skipSpace (c :: (text ++ ']' :: rest)))).map _ = _
    rw [skipSpace_cons hstart.1, hitems]
    rfl

/-- The written members of an object are read back up to the closing brace. -/
theorem readMembers_write (h : Harmless safe) (limits : Limits) :
    ∀ (ms : List (String × Json)) (fuel room : Nat) (rest : List Char), ms ≠ [] →
    MembersArePlain ms → limits.allows (membersDigits ms) = true →
    2 * ((writeMembers ms).flatMap safe).length ≤ fuel → membersDepth ms ≤ room →
    readMembers limits fuel room ((writeMembers ms).flatMap safe ++ '\x7d' :: rest) =
      .ok (ms, rest)
  | [], _, _, _, hne, _, _, _, _ => absurd rfl hne
  | [(key, v)], fuel, room, rest, _, hv, hdigits, hfuel, hroom => by
    rw [flatMap_writeMember h] at hfuel ⊢
    simp only [List.length_append, List.length_cons] at hfuel
    obtain ⟨fuel, rfl⟩ : ∃ k, fuel = k + 1 := ⟨fuel - 1, by omega⟩
    rw [membersDigits, Limits.allows_max, Bool.and_eq_true] at hdigits
    have hvalue := readValue_write h limits v fuel room ('\x7d' :: rest) hv.1 hdigits.1
      (by omega) (by rw [membersDepth] at hroom; omega)
      (endsNumber_cons rest (by decide) (by decide))
    rw [List.cons_append, List.cons_append, List.append_assoc, List.cons_append, List.cons_append,
      readMembers, readString_written h]
    simp only [skipSpace_cons (show isSpace ':' = false by decide), skipSpace_write h hv.1, hvalue]
    rfl
  | (key, v) :: entry :: ms, fuel, room, rest, _, hv, hdigits, hfuel, hroom => by
    rw [flatMap_writeMembers h] at hfuel ⊢
    simp only [List.length_append, List.length_cons] at hfuel
    obtain ⟨fuel, rfl⟩ : ∃ k, fuel = k + 1 := ⟨fuel - 1, by omega⟩
    rw [membersDepth] at hroom
    rw [membersDigits, Limits.allows_max, Bool.and_eq_true] at hdigits
    have hvalue := readValue_write h limits v fuel room
      (',' :: ((writeMembers (entry :: ms)).flatMap safe ++ '\x7d' :: rest)) hv.1 hdigits.1
      (by omega) (by omega) (endsNumber_cons _ (by decide) (by decide))
    have hmembers := readMembers_write h limits (entry :: ms) fuel room rest (by simp) hv.2
      hdigits.2 (by omega) (by omega)
    obtain ⟨text, hc⟩ := exists_writeMembers_eq_cons h entry ms
    rw [List.append_assoc, List.cons_append, List.cons_append, List.append_assoc,
      List.cons_append, List.cons_append, List.cons_append, readMembers, readString_written h]
    simp only [skipSpace_cons (show isSpace ':' = false by decide), skipSpace_write h hv.1, hvalue,
      skipSpace_cons (show isSpace ',' = false by decide)]
    rw [hc, List.cons_append] at hmembers ⊢
    rw [skipSpace_cons (by decide), hmembers]
    rfl

end

/-! ## Whole texts -/

/-- A text that holds nothing but a written value is read as that value. -/
theorem readAll_write (h : Harmless safe) {v : Json} (hv : v.IsPlain) {limits : Limits}
    (hfits : v.fits limits = true) (hroom : v.depth ≤ limits.nesting) :
    readAll limits (v.write.flatMap safe) = .ok v := by
  have hread := readValue_write h limits v (2 * (v.write.flatMap safe).length + 1) limits.nesting []
    hv hfits (by omega) hroom endsNumber_nil
  have hspace := skipSpace_write h hv []
  rw [List.append_nil] at hread hspace
  rw [readAll, hspace, hread]
  rfl

end

/-- An embedded value is read back. -/
theorem read_embed {v : Json} {limits : Limits} (hv : v.IsPlain) (hfits : v.fits limits = true)
    (hroom : v.depth ≤ limits.nesting) : read limits v.embed = .ok v := by
  rw [read, embed, String.toList_ofList]
  exact readAll_write harmless_scriptSafeChar hv hfits hroom

theorem IsReadable.read_embed {v : Json} {limits : Limits} (hv : v.IsReadable limits.nesting) :
    read limits v.embed = .ok v :=
  Json.read_embed hv.plain (hv.fits limits) hv.depth_le

/-! ## Characters of written texts -/

theorem le_toNat_of_all {cs : List Char} (hcs : cs.all (fun c => 0x20 ≤ c.toNat) = true)
    {c : Char} (h : c ∈ cs) : 0x20 ≤ c.toNat :=
  List.all_iff_forall_prop.mp hcs c h

theorem le_toNat_of_mem_escapedChar {c d : Char} (h : d ∈ escapedChar c) : 0x20 ≤ d.toNat := by
  rw [escapedChar] at h
  repeat' split at h
  · exact le_toNat_of_all (by decide) h
  · exact le_toNat_of_all (by decide) h
  · exact le_toNat_of_all (by decide) h
  · exact le_toNat_of_all (by decide) h
  · exact le_toNat_of_all (by decide) h
  · exact le_toNat_of_all (by decide) h
  · exact le_toNat_of_all (by decide) h
  · rw [hexDigits_four] at h
    have hdigit : ∀ k < 16, 0x20 ≤ (Text.hexDigit k).toNat := by decide
    simp only [List.mem_cons, List.not_mem_nil, or_false] at h
    rcases h with rfl | rfl | rfl | rfl | rfl | rfl
    · decide
    · decide
    all_goals exact hdigit _ (Nat.mod_lt _ (by decide))
  · rename_i hcontrol
    rw [List.mem_singleton.mp h]
    exact Nat.not_lt.mp hcontrol

theorem le_toNat_of_mem_writeString {s : String} {c : Char} (h : c ∈ writeString s) :
    0x20 ≤ c.toNat := by
  rw [writeString, List.cons_append, List.mem_cons, List.mem_append, List.mem_singleton] at h
  rcases h with rfl | h | rfl
  · decide
  · obtain ⟨d, -, hd⟩ := List.mem_flatMap.mp h
    exact le_toNat_of_mem_escapedChar hd
  · decide

theorem le_toNat_of_mem_int {n : Int} {c : Char} (h : c ∈ (toString n).toList) :
    0x20 ≤ c.toNat := by
  rcases eq_minus_or_isDigit_of_mem_int h with rfl | hdigit
  · decide
  · obtain ⟨hlow, -⟩ := Text.toNat_of_isDigit hdigit
    omega

mutual

/-- A plain value is written without controls. -/
theorem le_toNat_of_mem_write : ∀ (v : Json), v.IsPlain → ∀ c ∈ v.write, 0x20 ≤ c.toNat
  | .null, _, c, hc => by
    exact le_toNat_of_all (by decide) hc
  | .bool true, _, c, hc => by
    exact le_toNat_of_all (by decide) hc
  | .bool false, _, c, hc => by
    exact le_toNat_of_all (by decide) hc
  | .int n, _, c, hc => by
    rw [write] at hc
    exact le_toNat_of_mem_int hc
  | .float x, hv, _, _ => hv.elim
  | .str s, _, c, hc => by
    rw [write] at hc
    exact le_toNat_of_mem_writeString hc
  | .arr vs, hv, c, hc => by
    rw [write, List.cons_append, List.mem_cons, List.mem_append, List.mem_singleton] at hc
    rcases hc with rfl | hc | rfl
    · decide
    · exact le_toNat_of_mem_writeItems vs hv c hc
    · decide
  | .obj ms, hv, c, hc => by
    rw [write, List.cons_append, List.mem_cons, List.mem_append, List.mem_singleton] at hc
    rcases hc with rfl | hc | rfl
    · decide
    · exact le_toNat_of_mem_writeMembers ms hv.2 c hc
    · decide

theorem le_toNat_of_mem_writeItems :
    ∀ (vs : List Json), ArePlain vs → ∀ c ∈ writeItems vs, 0x20 ≤ c.toNat
  | [], _, c, hc => by simp [writeItems] at hc
  | [v], hv, c, hc => by
    rw [writeItems] at hc
    exact le_toNat_of_mem_write v hv.1 c hc
  | v :: w :: vs, hv, c, hc => by
    rw [writeItems_cons_cons, List.mem_append, List.mem_cons] at hc
    rcases hc with hc | rfl | hc
    · exact le_toNat_of_mem_write v hv.1 c hc
    · decide
    · exact le_toNat_of_mem_writeItems (w :: vs) hv.2 c hc

theorem le_toNat_of_mem_writeMembers :
    ∀ (ms : List (String × Json)), MembersArePlain ms → ∀ c ∈ writeMembers ms, 0x20 ≤ c.toNat
  | [], _, c, hc => by simp [writeMembers] at hc
  | [(key, v)], hv, c, hc => by
    rw [writeMembers, List.mem_append, List.mem_cons] at hc
    rcases hc with hc | rfl | hc
    · exact le_toNat_of_mem_writeString hc
    · decide
    · exact le_toNat_of_mem_write v hv.1 c hc
  | (key, v) :: entry :: ms, hv, c, hc => by
    rw [writeMembers_cons_cons, List.mem_append, List.mem_append, List.mem_cons,
      List.mem_cons] at hc
    rcases hc with (hc | rfl | hc) | rfl | hc
    · exact le_toNat_of_mem_writeString hc
    · decide
    · exact le_toNat_of_mem_write v hv.1 c hc
    · decide
    · exact le_toNat_of_mem_writeMembers (entry :: ms) hv.2 c hc

end

/-- An embedded value neither opens a tag nor breaks a line. -/
theorem inert_of_mem_embed {v : Json} (hv : v.IsPlain) {c : Char} (h : c ∈ v.embed.toList) :
    c ≠ '<' ∧ 0x20 ≤ c.toNat ∧ c.toNat ≠ 0x2028 ∧ c.toNat ≠ 0x2029 := by
  rw [embed, String.toList_ofList] at h
  obtain ⟨d, hd, hc⟩ := List.mem_flatMap.mp h
  have hlow := le_toNat_of_mem_write v hv d hd
  have hall {cs : List Char}
      (hcs : cs.all (fun e => e ≠ '<' ∧ 0x20 ≤ e.toNat ∧ e.toNat ≠ 0x2028 ∧ e.toNat ≠ 0x2029) =
        true)
      (hin : c ∈ cs) : c ≠ '<' ∧ 0x20 ≤ c.toNat ∧ c.toNat ≠ 0x2028 ∧ c.toNat ≠ 0x2029 :=
    List.all_iff_forall_prop.mp hcs c hin
  rw [scriptSafeChar] at hc
  repeat' split at hc
  · exact hall (by decide) hc
  · exact hall (by decide) hc
  · exact hall (by decide) hc
  · rename_i htag hline hparagraph
    rw [List.mem_singleton.mp hc]
    exact ⟨by simpa using htag, hlow, by simpa using hline, by simpa using hparagraph⟩

end Json

end SalonBooking
