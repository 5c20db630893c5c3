import Mathlib.Data.List.Infix

/-!
# Markers in a text

Where a marker stands in a text: `splitAtFirst` looks for the first place and
`afterLast?` for the last one.

A marker that starts with `<` can only stand where a `<` does.
`anglesBefore p` says of a text that every `<` in it stands right before a
character of a class, so a marker whose second character is of no such class
does not occur.  It is a property of the parts of a text one by one
(`anglesBefore_append`), which occurring is not.
-/

namespace SalonBooking.Text

/-! ## Looking for a marker -/

/-- The part of a text before the first place of a marker, and the rest from that place on; the
whole text and nothing if there is no such place. -/
def splitAtFirst (marker : List Char) : List Char → List Char × List Char
  | [] => ([], [])
  | c :: rest =>
    if marker.isPrefixOf (c :: rest) then ([], c :: rest)
    else
      let (before, after) := splitAtFirst marker rest
      (c :: before, after)

/-- What follows the last place of a marker in a text, if there is one. -/
def afterLast? (marker : List Char) : List Char → Option (List Char)
  | [] => none
  | c :: rest =>
    match afterLast? marker rest with
    | some after => some after
    | none => marker.isPrefixOf? (c :: rest)

theorem isPrefixOf?_append (marker rest : List Char) :
    marker.isPrefixOf? (marker ++ rest) = some rest :=
  List.isPrefixOf?_eq_some_iff_append_eq.mpr rfl

/-- A marker whose first character comes only once in it does not begin inside a text without it
and end in its own next place. -/
theorem not_prefix_append {m c : Char} {ms before : List Char} (hm : m ∉ ms)
    (hnone : ¬ (m :: ms) <:+: c :: before) (after : List Char) :
    ¬ (m :: ms) <+: c :: before ++ (m :: ms ++ after) := by
  intro hprefix
  have hlength : ¬ (m :: ms).length ≤ (c :: before).length := by
    intro hle
    refine hnone (List.IsPrefix.isInfix ?_)
    exact List.prefix_of_prefix_length_le hprefix (List.prefix_append _ _) hle
  obtain ⟨rest, hrest⟩ : c :: before <+: m :: ms :=
    List.prefix_of_prefix_length_le (List.prefix_append _ _) hprefix (by omega)
  -- What is left of the marker starts with the marker's own first character.
  rw [← hrest, List.prefix_append_right_inj] at hprefix
  cases rest with
  | nil =>
    rw [List.append_nil] at hrest
    exact hlength (by rw [← hrest])
  | cons d rest =>
    rw [hrest] at hprefix
    have hd : d = m := by
      obtain ⟨more, hmore⟩ := hprefix
      exact (List.cons.inj hmore).1
    have hmem : d ∈ before ++ d :: rest := List.mem_append_right _ List.mem_cons_self
    rw [List.cons_append] at hrest
    rw [(List.cons.inj hrest).2] at hmem
    exact hm (hd ▸ hmem)

/-- A text without a marker is split off in front of it. -/
theorem splitAtFirst_append {m : Char} {ms before : List Char} (hm : m ∉ ms)
    (hnone : ¬ (m :: ms) <:+: before) (after : List Char) :
    splitAtFirst (m :: ms) (before ++ (m :: ms ++ after)) = (before, m :: ms ++ after) := by
  induction before with
  | nil =>
    have hprefix : (m :: ms).isPrefixOf (m :: (ms ++ after)) = true :=
      List.isPrefixOf_iff_prefix.mpr (List.prefix_append (m :: ms) after)
    rw [List.nil_append, List.cons_append, splitAtFirst, if_pos hprefix]
  | cons c before ih =>
    have hrest : ¬ (m :: ms) <:+: before :=
      fun hin => hnone (hin.trans (List.suffix_cons c before).isInfix)
    have hprefix : ¬ (m :: ms).isPrefixOf (c :: (before ++ (m :: ms ++ after))) = true := by
      rw [List.isPrefixOf_iff_prefix]
      exact not_prefix_append hm hnone after
    rw [List.cons_append, splitAtFirst, if_neg hprefix, ih hrest]

theorem afterLast?_of_not_infix {marker text : List Char}
    (h : ¬ marker <:+: text) : afterLast? marker text = none := by
  induction text with
  | nil => rfl
  | cons c rest ih =>
    have hrest : ¬ marker <:+: rest := fun hin => h (hin.trans (List.suffix_cons c rest).isInfix)
    rw [afterLast?, ih hrest]
    show marker.isPrefixOf? (c :: rest) = none
    cases hfound : marker.isPrefixOf? (c :: rest) with
    | none => rfl
    | some after =>
      rw [List.isPrefixOf?_eq_some_iff_append_eq] at hfound
      exact absurd (hfound ▸ (List.prefix_append marker after).isInfix) h

/-- If a marker has a place after which it has no other, that place is the last one. -/
theorem afterLast?_append {m : Char} {ms after : List Char}
    (h : ¬ (m :: ms) <:+: ms ++ after) (before : List Char) :
    afterLast? (m :: ms) (before ++ (m :: ms ++ after)) = some after := by
  induction before with
  | nil =>
    rw [List.nil_append, List.cons_append, afterLast?,
      afterLast?_of_not_infix h]
    exact isPrefixOf?_append (m :: ms) after
  | cons c before ih =>
    rw [List.cons_append, afterLast?, ih]

/-! ## Angle brackets -/

/-- Whether every `<` of a text stands right before a character of a class. -/
def anglesBefore (p : Char → Bool) : List Char → Bool
  | [] => true
  | c :: rest => (c != '<' || rest.head?.any p) && anglesBefore p rest

variable {p : Char → Bool}

theorem anglesBefore_append {s t : List Char} (hs : anglesBefore p s = true)
    (ht : anglesBefore p t = true) : anglesBefore p (s ++ t) = true := by
  induction s with
  | nil => exact ht
  | cons c rest ih =>
    rw [anglesBefore, Bool.and_eq_true] at hs
    rw [List.cons_append, anglesBefore, Bool.and_eq_true]
    refine ⟨?_, ih hs.2⟩
    cases rest with
    | nil =>
      rw [List.head?_nil, Option.any_none, Bool.or_false] at hs
      rw [hs.1, Bool.true_or]
    | cons d rest => exact hs.1

/-- A text without `<` has none at a wrong place. -/
theorem anglesBefore_of_notMem {t : List Char} (h : '<' ∉ t) : anglesBefore p t = true := by
  induction t with
  | nil => rfl
  | cons c rest ih =>
    have hc : (c != '<') = true := by
      rw [bne_iff_ne]
      rintro rfl
      exact h List.mem_cons_self
    rw [anglesBefore, hc, ih fun hin => h (List.mem_cons_of_mem c hin)]
    rfl

theorem anglesBefore_mono {q : Char → Bool} (hpq : ∀ c, p c = true → q c = true) {t : List Char}
    (h : anglesBefore p t = true) : anglesBefore q t = true := by
  induction t with
  | nil => rfl
  | cons c rest ih =>
    rw [anglesBefore, Bool.and_eq_true, Bool.or_eq_true] at h ⊢
    refine ⟨h.1.imp id fun hhead => ?_, ih h.2⟩
    cases rest with
    | nil => exact hhead
    | cons d rest => exact hpq d hhead

/-- A marker that starts with `<` and a character of no such class does not occur. -/
theorem not_infix_of_anglesBefore {t : List Char} (h : anglesBefore p t = true) {c : Char}
    (hc : p c = false) (more : List Char) : ¬ ('<' :: c :: more) <:+: t := by
  rintro ⟨s, u, rfl⟩
  induction s with
  | nil =>
    rw [List.nil_append, List.cons_append, anglesBefore, List.cons_append, List.head?_cons,
      Option.any_some, hc] at h
    exact Bool.noConfusion h
  | cons d s ih =>
    rw [List.cons_append, List.cons_append, anglesBefore, Bool.and_eq_true] at h
    exact ih h.2

end SalonBooking.Text
