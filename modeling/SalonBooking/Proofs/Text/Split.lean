import Mathlib.Data.String.Basic

/-!
# Splitting a text at a character

* `splitOn_singleton`: a text is split as the list of its characters is.
* `append_separator_inj`, `append_separator_inj_right`: what a separator joins comes
  apart again if one side does not have it.
-/

namespace SalonBooking.Text

open String

/-- The parts found from a position on: what lies before it is done, except for the characters that
begin the next part. -/
theorem splitOnAux_of_valid (c : Char) (l m r : List Char) (acc : List String) :
    splitOnAux (ofList (l ++ m ++ r)) (ofList [c]) ⟨utf8Len l⟩ ⟨utf8Len l + utf8Len m⟩ 0 acc =
      acc.reverse ++ (List.splitOnPPrepend (· == c) r m.reverse).map ofList := by
  have hget : Pos.Raw.get (ofList [c]) 0 = c := by
    simpa using get_of_valid [] [c]
  have hnext : Pos.Raw.next (ofList [c]) 0 = ⟨c.utf8Size⟩ := by
    simpa using next_of_valid [] c []
  have hend : Pos.Raw.atEnd (ofList [c]) ⟨c.utf8Size⟩ = true := by
    simpa using atEnd_of_valid [c] []
  induction r generalizing l m acc with
  | nil =>
    have hatEnd : Pos.Raw.atEnd (ofList (l ++ m ++ [])) ⟨utf8Len l + utf8Len m⟩ = true := by
      simpa using atEnd_of_valid (l ++ m) []
    rw [splitOnAux, if_pos hatEnd, extract_of_valid l m []]
    simp
  | cons d r ih =>
    have hatEnd : ¬ Pos.Raw.atEnd (ofList (l ++ m ++ d :: r)) ⟨utf8Len l + utf8Len m⟩ = true := by
      rw [← utf8Len_append, atEnd_of_valid (l ++ m) (d :: r)]
      exact List.cons_ne_nil d r
    have hgetD : Pos.Raw.get (ofList (l ++ m ++ d :: r)) ⟨utf8Len l + utf8Len m⟩ = d := by
      rw [← utf8Len_append, get_of_valid (l ++ m) (d :: r)]
      rfl
    have hnextD : Pos.Raw.next (ofList (l ++ m ++ d :: r)) ⟨utf8Len l + utf8Len m⟩ =
        ⟨utf8Len l + utf8Len m + d.utf8Size⟩ := by
      rw [← utf8Len_append, next_of_valid (l ++ m) d r]
    have hpart := extract_of_valid l m (d :: r)
    -- The separator is one character, so a part ends right where it is met.
    have hback : ∀ n k : Nat, (⟨n + k⟩ : Pos.Raw).unoffsetBy ⟨k⟩ = ⟨n⟩ := by
      intro n k
      simp [Pos.Raw.unoffsetBy]
    have hback0 : ∀ n : Nat, (⟨n⟩ : Pos.Raw).unoffsetBy 0 = ⟨n⟩ := by
      intro n
      simp [Pos.Raw.unoffsetBy]
    rw [splitOnAux, if_neg hatEnd]
    simp only [hgetD, hget, hnextD, hnext, hend, hback0, if_true]
    rw [List.splitOnPPrepend_cons_eq_if]
    by_cases hd : d = c
    · subst hd
      have hrest := ih (l ++ m ++ [d]) [] (ofList m :: acc)
      simp only [hback, hpart, BEq.rfl, if_true]
      simpa [Nat.add_assoc] using hrest
    · have hne : ¬ (d == c) = true := by simpa using hd
      have hrest := ih l (m ++ [d]) acc
      rw [if_neg hne, if_neg hne]
      simpa [Nat.add_assoc] using hrest

/-- A text is split at a character as the list of its characters is. -/
theorem splitOn_singleton (s : String) (c : Char) :
    s.splitOn (ofList [c]) = (s.toList.splitOn c).map ofList := by
  have hne : ¬ (ofList [c] == "") = true := by
    simp
  rw [String.splitOn, if_neg hne]
  have := splitOnAux_of_valid c [] [] s.toList []
  simpa [List.splitOn] using this

/-- Lists that are joined by a separator come apart at it if it is not in the first ones. -/
theorem append_separator_inj {α : Type} [DecidableEq α] {a : α} {xs ys xs' ys' : List α}
    (h : a ∉ xs) (h' : a ∉ xs') (heq : xs ++ a :: ys = xs' ++ a :: ys') : xs = xs' ∧ ys = ys' := by
  have hsplit := congrArg (List.splitOn a) heq
  rw [List.splitOn_append_cons_self_of_not_mem h, List.splitOn_append_cons_self_of_not_mem h']
    at hsplit
  obtain rfl := (List.cons.inj hsplit).1
  exact ⟨rfl, (List.cons.inj (List.append_cancel_left heq)).2⟩

/-- Read from the end, they do so if it is not in the last ones. -/
theorem append_separator_inj_right {α : Type} [DecidableEq α] {a : α} {xs ys xs' ys' : List α}
    (h : a ∉ ys) (h' : a ∉ ys') (heq : xs ++ a :: ys = xs' ++ a :: ys') : xs = xs' ∧ ys = ys' := by
  have hreverse := congrArg List.reverse heq
  simp only [List.reverse_append, List.reverse_cons, List.append_assoc,
    List.singleton_append] at hreverse
  obtain ⟨hlast, hfirst⟩ := append_separator_inj (by simpa using h) (by simpa using h') hreverse
  exact ⟨List.reverse_inj.mp hfirst, List.reverse_inj.mp hlast⟩

end SalonBooking.Text
