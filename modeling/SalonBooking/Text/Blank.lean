/-!
# Blank characters

Which characters count as blank, and trimming them off the ends of a text.

Blank are the ASCII controls from tab to carriage return, the four separators
`1C` to `1F`, the space, and every Unicode character of class `Zs`, `Zl` or
`Zp` together with the next-line control `85`.  The zero-width space `200B` is
not blank.
-/

namespace SalonBooking.Text

/-- A blank character: one that trimming removes. -/
def isBlank (c : Char) : Bool :=
  let n := c.toNat
  (9 ≤ n && n ≤ 13) || (0x1C ≤ n && n ≤ 0x20) || n == 0x85 || n == 0xA0 || n == 0x1680 ||
    (0x2000 ≤ n && n ≤ 0x200A) || n == 0x2028 || n == 0x2029 || n == 0x202F || n == 0x205F ||
    n == 0x3000

/-- The characters left when those of a class are dropped from the end. -/
def trimRightBy (p : Char → Bool) (cs : List Char) : List Char :=
  (cs.reverse.dropWhile p).reverse

/-- The characters left when those of a class are dropped from both ends. -/
def trimBy (p : Char → Bool) (cs : List Char) : List Char :=
  trimRightBy p (cs.dropWhile p)

/-- A text without the blanks at its two ends. -/
def trim (s : String) : String :=
  String.ofList (trimBy isBlank s.toList)

/-- A text without the slashes at its end. -/
def dropTrailingSlashes (s : String) : String :=
  String.ofList (trimRightBy (· == '/') s.toList)

/-- A text with its ASCII capitals made small.  The words it is compared with are ASCII. -/
def lower (s : String) : String :=
  String.ofList (s.toList.map Char.toLower)

/-- Nothing is trimmed off a text without the characters of a class. -/
theorem trimBy_of_forall {p : Char → Bool} {cs : List Char} (h : ∀ c ∈ cs, p c = false) :
    trimBy p cs = cs := by
  have hleft : cs.dropWhile p = cs := by
    cases cs with
    | nil => rfl
    | cons c rest => rw [List.dropWhile_cons, h c List.mem_cons_self, if_neg Bool.false_ne_true]
  have hright : cs.reverse.dropWhile p = cs.reverse := by
    cases hcs : cs.reverse with
    | nil => rfl
    | cons c rest =>
      have hc : c ∈ cs := List.mem_reverse.mp (hcs ▸ List.mem_cons_self)
      rw [List.dropWhile_cons, h c hc, if_neg Bool.false_ne_true]
  rw [trimBy, hleft, trimRightBy, hright, List.reverse_reverse]

end SalonBooking.Text
