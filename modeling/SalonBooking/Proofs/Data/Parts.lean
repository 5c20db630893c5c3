import Mathlib.Data.List.Count
import Mathlib.Data.List.Nodup
import SalonBooking.Data.Parts

/-!
# What dropping repetitions drops

A list is its items without repetitions and, in some order, what is dropped:
each item once less than it is there.

* `distinct_sublist`: what is left keeps its order.
* `addDistinct_eq`, `distinct_append`: items that come later are added at the end, if they are new.
* `pairwise_distinct`: items are in the order of their first places.
* `distinct_append_repeats_perm`: nothing gets lost.
* `mem_repeats_iff`: what is dropped is there more than once.
-/

namespace SalonBooking

theorem exists_addDistinct_eq (seen xs : List String) :
    ∃ added, addDistinct seen xs = seen ++ added ∧ added.Sublist xs := by
  induction xs generalizing seen with
  | nil => exact ⟨[], (List.append_nil seen).symm, List.Sublist.refl []⟩
  | cons x rest ih =>
    rw [addDistinct_cons]
    by_cases hx : x ∈ seen
    · obtain ⟨added, hadded, hsub⟩ := ih seen
      rw [if_pos hx]
      exact ⟨added, hadded, hsub.cons x⟩
    · obtain ⟨added, hadded, hsub⟩ := ih (seen ++ [x])
      rw [if_neg hx]
      refine ⟨x :: added, ?_, hsub.cons_cons x⟩
      rw [hadded, List.append_assoc]
      rfl

/-- What is left keeps its order. -/
theorem distinct_sublist (xs : List String) : (distinct xs).Sublist xs := by
  obtain ⟨added, hadded, hsub⟩ := exists_addDistinct_eq [] xs
  rw [distinct, hadded]
  exact hsub

/-- What is added are the items that are not there yet. -/
theorem addDistinct_eq (seen xs : List String) :
    addDistinct seen xs = seen ++ (distinct xs).filter fun x => x ∉ seen := by
  induction xs generalizing seen with
  | nil => simp [addDistinct, distinct]
  | cons x rest ih =>
    have hcons : distinct (x :: rest) = [x] ++ (distinct rest).filter fun y => y ∉ [x] := ih [x]
    rw [addDistinct_cons, ih, hcons, List.filter_append, List.filter_filter]
    by_cases hx : x ∈ seen
    · rw [if_pos hx, List.filter_cons_of_neg (by simpa using hx), List.filter_nil, List.nil_append]
      congr 1
      refine List.filter_congr fun y _ => ?_
      rw [← Bool.decide_and, decide_eq_decide, List.mem_singleton]
      exact ⟨fun hy => ⟨hy, fun heq => hy (heq ▸ hx)⟩, fun hy => hy.1⟩
    · rw [if_neg hx, List.filter_cons_of_pos (by simpa using hx), List.filter_nil,
        List.append_assoc]
      congr 2
      refine List.filter_congr fun y _ => ?_
      rw [← Bool.decide_and, decide_eq_decide, List.mem_append, not_or]

theorem distinct_cons (x : String) (rest : List String) :
    distinct (x :: rest) = x :: (distinct rest).filter fun y => y ∉ [x] :=
  addDistinct_eq [x] rest

/-- Items that come later are added at the end, unless they are there already. -/
theorem distinct_append (xs ys : List String) :
    distinct (xs ++ ys) = distinct xs ++ (distinct ys).filter fun y => y ∉ distinct xs := by
  rw [← addDistinct_eq, distinct, addDistinct, List.foldl_append]
  rfl

/-- Where items are listed with their places, the ones without repetitions are in the order in which
they first occur: an item has some place before all places of the items behind it. -/
theorem pairwise_distinct {α : Type} {R : α → α → Prop} {placed : List (α × String)}
    (h : placed.Pairwise fun entry entry' => R entry.1 entry'.1) :
    (distinct (placed.map Prod.snd)).Pairwise fun x y =>
      ∃ place, (place, x) ∈ placed ∧ ∀ other, (other, y) ∈ placed → R place other := by
  induction placed with
  | nil => exact .nil
  | cons entry rest ih =>
    obtain ⟨hbefore, hrest⟩ := List.pairwise_cons.mp h
    -- A place of another item is none that stands in front.
    have hmem {other : α} {y : String} (hne : y ∉ [entry.2]) (hy : (other, y) ∈ entry :: rest) :
        (other, y) ∈ rest := by
      rcases List.mem_cons.mp hy with rfl | hy
      · exact absurd (List.mem_singleton.mpr rfl) hne
      · exact hy
    rw [List.map_cons, distinct_cons]
    refine List.pairwise_cons.mpr ⟨fun y hy => ?_, List.pairwise_filter.mpr ((ih hrest).imp ?_)⟩
    · have hne : y ∉ [entry.2] := by simpa using (List.mem_filter.mp hy).2
      exact ⟨entry.1, List.mem_cons_self, fun other hother => hbefore _ (hmem hne hother)⟩
    · rintro x y ⟨place, hplace, hfirst⟩ - hy
      have hne : y ∉ [entry.2] := by simpa using hy
      exact ⟨place, List.mem_cons_of_mem _ hplace,
        fun other hother => hfirst other (hmem hne hother)⟩

/-- The items of a list that dropping repetitions drops. -/
def repeats (xs : List String) : List String := xs.diff (distinct xs)

theorem count_distinct_of_mem {x : String} {xs : List String} (h : x ∈ xs) :
    (distinct xs).count x = 1 :=
  List.count_eq_one_of_mem (nodup_distinct xs) (mem_distinct.mpr h)

/-- A list is what is left and what is dropped. -/
theorem distinct_append_repeats_perm (xs : List String) : (distinct xs ++ repeats xs).Perm xs := by
  refine List.subperm_append_diff_self_of_count_le fun x hx => ?_
  rw [count_distinct_of_mem (mem_distinct.mp hx)]
  exact List.count_pos_iff.mpr (mem_distinct.mp hx)

/-- What is dropped is there more than once. -/
theorem mem_repeats_iff {x : String} {xs : List String} : x ∈ repeats xs ↔ 1 < xs.count x := by
  have hcount := (distinct_append_repeats_perm xs).count_eq x
  rw [List.count_append] at hcount
  rw [← List.count_pos_iff]
  by_cases hx : x ∈ xs
  · rw [count_distinct_of_mem hx] at hcount
    omega
  · rw [List.count_eq_zero_of_not_mem hx] at hcount ⊢
    omega

end SalonBooking
