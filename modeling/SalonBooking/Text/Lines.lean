/-!
# Line ends

A line of a text file ends with `\n`, with `\r\n` or with `\r`.
`unifyLineEnds` writes every line end as `\n`.
-/

namespace SalonBooking.Text

/-- Some characters with every line end written as `\n`. -/
def unifyEnds : List Char → List Char
  | '\r' :: '\n' :: rest => '\n' :: unifyEnds rest
  | '\r' :: rest => '\n' :: unifyEnds rest
  | c :: rest => c :: unifyEnds rest
  | [] => []

/-- A text with every line end written as `\n`. -/
def unifyLineEnds (s : String) : String :=
  String.ofList (unifyEnds s.toList)

/-- A text without `\r` has nothing to unify. -/
theorem unifyEnds_eq_self {cs : List Char} (h : '\r' ∉ cs) : unifyEnds cs = cs := by
  induction cs with
  | nil => rfl
  | cons c rest ih =>
    obtain ⟨hc, hrest⟩ : '\r' ≠ c ∧ '\r' ∉ rest := by simpa using h
    rw [unifyEnds, ih hrest]
    all_goals
      intros
      subst_vars
      exact hc rfl

end SalonBooking.Text
