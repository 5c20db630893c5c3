import SalonBooking.Page.MenuBlock
import SalonBooking.Proofs.Json.Tokens

/-!
# Prices as they are shown

A price stands on the page as an amount of yen with commas between groups of
three digits; the price of an option has a plus sign in front, or is the word
for what is free.  `readPrice?` reads such a text knowing no more than that:
it takes the commas for cuts, and wants the groups to be of three digits, but
for the first, which may be shorter.

* `exists_groups`: a number is written in such groups.
* `readPrice?_yen`, `readPrice?_optionPrice`: what is shown is read back.
-/

namespace SalonBooking.Page

/-! ## Reading -/

/-- The number that groups of digits write: one to three digits in the first group, and three in
every other. -/
def readGroups? : List (List Char) → Option Nat
  | [] => none
  | first :: others =>
    if !first.isEmpty && first.length ≤ 3 && others.all (·.length == 3) &&
        (first :: others).flatten.all Char.isDigit then
      some (Text.digitsValue (first :: others).flatten)
    else none

/-- The amount that the text of a price says. -/
def readPrice? (text : String) : Option Nat :=
  if text = "無料" then some 0
  else
    match text.toList with
    | '+' :: '¥' :: number => readGroups? (number.splitOn ',')
    | '¥' :: number => readGroups? (number.splitOn ',')
    | _ => none

/-! ## Reading back -/

theorem intercalate_concat (separator : List Char) (first : List Char) (others : List (List Char))
    (last : List Char) :
    separator.intercalate (first :: (others ++ [last])) =
      separator.intercalate (first :: others) ++ (separator ++ last) := by
  induction others generalizing first with
  | nil => simp [List.intercalate]
  | cons other rest ih =>
    have hrest := ih other
    simp only [List.intercalate, List.cons_append, List.intersperse_cons_cons,
      List.flatten_cons] at hrest ⊢
    rw [hrest]
    simp only [List.append_assoc]

/-- Digits fall into groups from the right: every group has three but for the first. -/
theorem exists_groups {digits : List Char} (hne : digits ≠ []) :
    ∃ first others, (groupReversed digits).reverse = [','].intercalate (first :: others) ∧
      (first :: others).flatten = digits.reverse ∧ first ≠ [] ∧ first.length ≤ 3 ∧
      ∀ group ∈ others, group.length = 3 := by
  induction digits using groupReversed.induct with
  | case1 a b c d rest ih =>
    obtain ⟨first, others, htext, hdigits, hfirst, hlength, hothers⟩ := ih (List.cons_ne_nil d rest)
    refine ⟨first, others ++ [[c, b, a]], ?_, ?_, hfirst, hlength, ?_⟩
    · rw [intercalate_concat, ← htext, groupReversed]
      simp
    · rw [← List.cons_append, List.flatten_append, hdigits]
      simp
    · intro group hgroup
      rcases List.mem_append.mp hgroup with hgroup | hgroup
      · exact hothers group hgroup
      · rw [List.mem_singleton.mp hgroup]
        rfl
  | case2 short hshort =>
    have hlength : short.length ≤ 3 := by
      match short with
      | [] | [_] | [_, _] | [_, _, _] => simp
      | a :: b :: c :: d :: rest => exact absurd rfl (hshort a b c d rest)
    refine ⟨short.reverse, [], ?_, ?_, by simp [hne], by simp [hlength], by simp⟩
    · rw [groupReversed]
      · simp [List.intercalate]
      · exact hshort
    · simp

/-- A number with commas is read back. -/
theorem readGroups?_grouped (n : Nat) :
    readGroups? ((grouped n).toList.splitOn ',') = some n := by
  have hne : (Nat.toDigits 10 n).reverse ≠ [] := by simp
  obtain ⟨first, others, htext, hflat, hfirst, hlength, hothers⟩ := exists_groups hne
  rw [List.reverse_reverse] at hflat
  have hall : ∀ c ∈ (first :: others).flatten, c.isDigit = true := by
    rw [hflat]
    exact fun c hc => Nat.isDigit_of_mem_toDigits (by decide) (by decide) hc
  have hcomma : ∀ group ∈ first :: others, ',' ∉ group := fun group hgroup hmem =>
    absurd (hall ',' (List.mem_flatten.mpr ⟨group, hgroup, hmem⟩)) (by decide)
  rw [grouped, Text.toList_toString, String.toList_ofList, htext,
    List.splitOn_intercalate ',' hcomma (List.cons_ne_nil first others), readGroups?, if_pos]
  · rw [hflat, Json.digitsValue_toDigits]
  · simp only [Bool.and_eq_true, Bool.not_eq_true', List.isEmpty_eq_false_iff, decide_eq_true_eq,
      List.all_eq_true, beq_iff_eq]
    exact ⟨⟨⟨hfirst, hlength⟩, hothers⟩, hall⟩

/-- What a leaf or an item costs is read off its text. -/
theorem readPrice?_yen (n : Nat) : readPrice? (yen n) = some n := by
  have htext : (yen n).toList = '¥' :: (grouped n).toList := by
    rw [yen, String.toList_append]
    rfl
  have hne : yen n ≠ "無料" := by
    intro heq
    rw [heq] at htext
    exact absurd (List.cons.inj htext).1 (by decide)
  rw [readPrice?, if_neg hne, htext]
  exact readGroups?_grouped n

/-- So is what an option costs, nothing included. -/
theorem readPrice?_optionPrice (n : Nat) : readPrice? (optionPrice n) = some n := by
  rw [optionPrice]
  split
  · have htext : ("+" ++ yen n).toList = '+' :: '¥' :: (grouped n).toList := by
      rw [yen, String.toList_append, String.toList_append]
      rfl
    have hne : "+" ++ yen n ≠ "無料" := by
      intro heq
      rw [heq] at htext
      exact absurd (List.cons.inj htext).1 (by decide)
    rw [readPrice?, if_neg hne, htext]
    exact readGroups?_grouped n
  · rename_i hzero
    rw [Nat.eq_zero_of_not_pos hzero]
    rfl

end SalonBooking.Page
