import Mathlib.Data.List.Forall2
import Mathlib.Data.List.Nodup
import SalonBooking.Proofs.Calendar.Date

/-!
# Weeks

Weeks run from Monday to Sunday.  Every day lies in exactly one, at the place that
its day of the week has.

* `Weekday.countP_range'_weeks`: of whole weeks every day of the week has the same share.
* `sevenDays_eq_ok_iff`: seven days from a day on.
* `mem_week_iff`: the days of a week are those that have its Monday.
* `getElem?_week_iff`, `weekday_of_getElem?_week`: their places in it.
* `week_eq_or_disjoint`: two weeks are the same or have no day in common.
-/

namespace SalonBooking

namespace Weekday

theorem ofIndex_congr {m n : Nat} (h : m % 7 = n % 7) : ofIndex m = ofIndex n := by
  unfold ofIndex
  rw [h]

/-- The days of a week from Monday on have the numbers from one on. -/
theorem getElem?_fromMonday {i : Nat} (h : i < 7) : fromMonday[i]? = some (ofIndex (i + 1)) := by
  have hall : ∀ i : Fin 7, fromMonday[i.val]? = some (ofIndex (i.val + 1)) := by decide
  exact hall ⟨i, h⟩

/-- Seven numbers in a row are those of the seven days, whichever comes first. -/
theorem map_ofIndex_range'_perm (n : Nat) : ((List.range' n 7).map ofIndex).Perm all := by
  induction n with
  | zero => exact List.Perm.refl all
  | succ n ih =>
    -- The number that is added at the end has the day of the one that is left out in front.
    have hsame : ofIndex (n + 1 + 6) = ofIndex n := ofIndex_congr (by omega)
    have hthis : (List.range' n 7).map ofIndex =
        ofIndex n :: (List.range' (n + 1) 6).map ofIndex := by
      rw [List.range'_succ, List.map_cons]
    have hnext : (List.range' (n + 1) 7).map ofIndex =
        (List.range' (n + 1) 6).map ofIndex ++ [ofIndex n] := by
      rw [List.range'_1_concat, List.map_append, List.map_singleton, hsame]
    rw [hthis] at ih
    rw [hnext]
    exact (List.perm_append_singleton _ _).trans ih

/-- Whole weeks have as many days of some kind as one week, times their number. -/
theorem countP_range'_weeks (p : Weekday → Bool) (start weeks : Nat) :
    (List.range' start (7 * weeks)).countP (p ∘ ofIndex) = weeks * all.countP p := by
  induction weeks generalizing start with
  | zero => rw [Nat.mul_zero, List.range'_zero, List.countP_nil, Nat.zero_mul]
  | succ weeks ih =>
    have hfirst : (List.range' start 7).countP (p ∘ ofIndex) = all.countP p := by
      rw [← List.countP_map]
      exact (map_ofIndex_range'_perm start).countP_eq p
    rw [Nat.mul_succ, Nat.add_comm, ← List.range'_append_1, List.countP_append, hfirst, ih,
      Nat.succ_mul, Nat.add_comm]

end Weekday

namespace Date

variable {d e start : Date} {week week' : List Date} {i : Nat}

/-! ## Mondays -/

@[simp] theorem weekStart_weekday (d : Date) : d.weekStart.weekday = .monday := by
  have hrange := d.inRange
  have hmonday : d.weekStart.ordinal % 7 = 1 % 7 := by
    rw [weekStart_ordinal]
    omega
  exact Weekday.ofIndex_congr hmonday

/-- A Monday begins the week of the days from it on, up to six days later, and of no others. -/
theorem weekStart_eq_iff (hstart : start.ordinal % 7 = 1) :
    d.weekStart = start ↔ start.ordinal ≤ d.ordinal ∧ d.ordinal < start.ordinal + 7 := by
  have hrange := d.inRange
  rw [Date.ext_iff, weekStart_ordinal]
  omega

theorem ordinal_weekStart_mod (d : Date) : d.weekStart.ordinal % 7 = 1 := by
  have hrange := d.inRange
  rw [weekStart_ordinal]
  omega

@[simp] theorem weekStart_weekStart (d : Date) : d.weekStart.weekStart = d.weekStart :=
  (weekStart_eq_iff d.ordinal_weekStart_mod).mpr
    ⟨Nat.le_refl _, Nat.lt_add_of_pos_right (by decide)⟩

/-! ## Seven days -/

theorem sevenDays_eq_ok_iff :
    start.sevenDays = .ok week ↔ week.map (·.ordinal) = List.range' start.ordinal 7 :=
  mapM_addDays_eq_ok_iff

theorem getElem?_sevenDays (h : start.sevenDays = .ok week) :
    week[i]? = some e ↔ i < 7 ∧ e.ordinal = start.ordinal + i := by
  rw [sevenDays_eq_ok_iff] at h
  have hplace : (week[i]?).map (·.ordinal) = if i < 7 then some (start.ordinal + i) else none := by
    rw [← List.getElem?_map, h]
    split
    · rw [List.getElem?_range' ‹_›, Nat.one_mul]
    · exact List.getElem?_eq_none (by rw [List.length_range']; omega)
  constructor
  · intro he
    rw [he] at hplace
    split at hplace
    · exact ⟨‹_›, Option.some.inj hplace⟩
    · cases hplace
  · rintro ⟨hi, he⟩
    rw [if_pos hi, ← he] at hplace
    obtain ⟨day, hday, hsame⟩ := Option.map_eq_some_iff.mp hplace
    rw [hday, Date.ext hsame]

theorem length_sevenDays (h : start.sevenDays = .ok week) : week.length = 7 := by
  rw [← List.length_map (·.ordinal), sevenDays_eq_ok_iff.mp h, List.length_range']

theorem nodup_sevenDays (h : start.sevenDays = .ok week) : week.Nodup := by
  refine List.Nodup.of_map (·.ordinal) ?_
  rw [sevenDays_eq_ok_iff.mp h]
  exact List.nodup_range' 1

/-! ## Weeks -/

section Week

variable (hweek : d.weekStart.sevenDays = .ok week)

include hweek

/-- The days of a week are those that have its Monday. -/
theorem mem_week_iff : e ∈ week ↔ e.weekStart = d.weekStart := by
  rw [weekStart_eq_iff d.ordinal_weekStart_mod, List.mem_iff_getElem?]
  simp only [getElem?_sevenDays hweek]
  constructor
  · rintro ⟨i, hi, he⟩
    omega
  · rintro ⟨hlow, hhigh⟩
    exact ⟨e.ordinal - d.weekStart.ordinal, by omega, by omega⟩

/-- A day stands in its week at the place of its day of the week, and nowhere else. -/
theorem getElem?_week_iff (he : e.weekStart = d.weekStart) :
    week[i]? = some e ↔ i = (e.weekday.index + 6) % 7 := by
  have hmonday := d.ordinal_weekStart_mod
  obtain ⟨hlow, hhigh⟩ := (weekStart_eq_iff hmonday).mp he
  rw [getElem?_sevenDays hweek, weekday_index]
  omega

/-- The days of a week have the days of the week from Monday on. -/
theorem weekday_of_getElem?_week (he : week[i]? = some e) :
    Weekday.fromMonday[i]? = some e.weekday := by
  have hmonday := d.ordinal_weekStart_mod
  obtain ⟨hi, hordinal⟩ := (getElem?_sevenDays hweek).mp he
  have hnumber : (i + 1) % 7 = e.ordinal % 7 := by omega
  rw [Weekday.getElem?_fromMonday hi, weekday, Weekday.ofIndex_congr hnumber]

/-- Two weeks are the same or have no day in common. -/
theorem week_eq_or_disjoint (hweek' : e.weekStart.sevenDays = .ok week') :
    week = week' ∨ week.Disjoint week' := by
  by_cases h : d.weekStart = e.weekStart
  · left
    rw [h, hweek'] at hweek
    exact (Except.ok.inj hweek).symm
  · right
    intro day hday hday'
    rw [mem_week_iff hweek] at hday
    rw [mem_week_iff hweek'] at hday'
    exact h (hday.symm.trans hday')

end Week

end Date

end SalonBooking
