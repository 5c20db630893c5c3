import Mathlib.Data.List.Sort
import Mathlib.Data.Rat.Floor
import SalonBooking.Proofs.Availability.Rows

/-!
# Slots are an even sequence of times

The rows of the calendar and the pickers both list times in even steps.
`AsksSlots` says what they are asked with: two values that write times of day and a
positive whole number of minutes.

* `length_steps`, `getElem?_steps`: how many steps there are, and where each leads.
* `steps_sublist`: steps of several times the width skip some of the numbers.
* `time_slots_exact`: the slots are exactly the times from the first on and before the
  last, and without being asked properly there are none.
-/

namespace SalonBooking

/-! ## Counting steps -/

section Steps

variable {start stop step m : Nat}

/-- There are as many steps as fit into the stretch, the last one perhaps cut short by its end. -/
theorem length_steps (hstep : 0 < step) :
    (steps start stop step).length =
      if stop ≤ start then 0 else ⌈((stop : ℚ) - start) / step⌉₊ := by
  have hcount (i : Nat) : i < (steps start stop step).length ↔ start + i * step < stop := by
    rw [steps, List.length_map, List.length_range, lt_count_iff hstep]
  split
  · rename_i hempty
    have hnone := (hcount 0).not.mpr (by omega)
    omega
  · have hwidth : (0 : ℚ) < step := by exact_mod_cast hstep
    refine eq_of_forall_lt_iff fun i => ?_
    rw [hcount, Nat.lt_ceil, lt_div_iff₀ hwidth, lt_sub_iff_add_lt', ← Nat.cast_mul, ← Nat.cast_add,
      Nat.cast_lt]

theorem getElem?_steps {i : Nat} (h : (steps start stop step)[i]? = some m) :
    m = start + i * step := by
  obtain ⟨hi, rfl⟩ := List.getElem?_eq_some_iff.mp h
  simp only [steps, List.getElem_map, List.getElem_range]

/-- Several steps at once lead to some of the numbers, in their order. -/
theorem steps_sublist (hstep : 0 < step) {times : Nat} (htimes : 0 < times) :
    (steps start stop (step * times)).Sublist (steps start stop step) := by
  have hwide : 0 < step * times := Nat.mul_pos hstep htimes
  have hsubset : steps start stop (step * times) ⊆ steps start stop step := by
    intro m hm
    obtain ⟨hlow, hhigh, hmultiple⟩ := (mem_steps hwide).mp hm
    exact (mem_steps hstep).mpr ⟨hlow, hhigh, Nat.mod_eq_zero_of_dvd
      ((Nat.dvd_mul_right step times).trans (Nat.dvd_of_mod_eq_zero hmultiple))⟩
  have hsubperm := List.subperm_of_subset ((pairwise_steps hwide).imp Nat.ne_of_lt) hsubset
  exact List.sublist_of_subperm_of_pairwise hsubperm (pairwise_steps hwide) (pairwise_steps hstep)

end Steps

/-! ## Slots -/

/-- Slots are asked for from one time of day on and before another, in positive steps. -/
structure AsksSlots (start stop step : Json) (first last minutes : Nat) : Prop where
  start_eq : minutesOf? start = some first
  stop_eq : minutesOf? stop = some last
  step_eq : step = .int minutes
  pos : 0 < minutes

/-- The times from one minute on and before another in even steps, each in its own form. -/
structure IsEvenTimes (first last minutes : Nat) (slots : List String) : Prop where
  length_eq : slots.length =
    if last ≤ first then 0 else ⌈((last : ℚ) - first) / minutes⌉₊
  parse?_getElem? : ∀ i slot, slots[i]? = some slot →
    TimeOfDay.parse? slot = some (first + i * minutes)
  within : ∀ slot ∈ slots, ∃ m, TimeOfDay.parse? slot = some m ∧ first ≤ m ∧ m < last ∧
    TimeOfDay.format m = slot
  increasing : slots.Pairwise fun slot later =>
    ∃ m n, TimeOfDay.parse? slot = some m ∧ TimeOfDay.parse? later = some n ∧ m < n

section

variable {start stop step : Json} {first last minutes : Nat}

theorem timeSlots_eq_timesBetween (h : AsksSlots start stop step first last minutes) :
    timeSlots start stop step = timesBetween first last minutes := by
  have hpos : (0 : Int) < minutes := Int.natCast_pos.mpr h.pos
  simp only [timeSlots, h.start_eq, h.stop_eq, h.step_eq, if_pos hpos, Int.toNat_natCast]

/-- The times between two written ones are slots. -/
theorem timesFrom_eq_timeSlots (start stop : String) (hminutes : 0 < minutes) :
    timesFrom start stop minutes = timeSlots (.str start) (.str stop) (.int minutes) := by
  have hpos : (0 : Int) < minutes := Int.natCast_pos.mpr hminutes
  simp only [timesFrom, timeSlots, minutesOf?, Json.text?, Option.bind_some]
  cases TimeOfDay.parse? start with
  | none => rfl
  | some first =>
    cases TimeOfDay.parse? stop with
    | none => rfl
    | some last => simp only [if_pos hpos, Int.toNat_natCast]

theorem timeSlots_eq_nil
    (h : ∀ first last minutes, ¬ AsksSlots start stop step first last minutes) :
    timeSlots start stop step = [] := by
  unfold timeSlots
  split
  · rename_i first last n hstart hstop
    split
    · rename_i hpos
      exact absurd ⟨hstart, hstop, congrArg Json.int (Int.toNat_of_nonneg hpos.le).symm,
        Int.pos_iff_toNat_pos.mp hpos⟩ (h first last n.toNat)
    · rfl
  · rfl

theorem isEvenTimes_timesBetween (hlast : last < 1440) (hminutes : 0 < minutes) :
    IsEvenTimes first last minutes (timesBetween first last minutes) := by
  have hread {m : Nat} (hm : m ∈ steps first last minutes) :
      TimeOfDay.parse? (TimeOfDay.format m) = some m :=
    TimeOfDay.parse?_format (by have := (mem_steps hminutes).mp hm; omega)
  constructor
  case length_eq =>
    rw [timesBetween, List.length_map, length_steps hminutes]
  case parse?_getElem? =>
    intro i slot hslot
    rw [timesBetween, List.getElem?_map, Option.map_eq_some_iff] at hslot
    obtain ⟨m, hm, rfl⟩ := hslot
    rw [hread (List.mem_of_getElem? hm), getElem?_steps hm]
  case within =>
    intro slot hslot
    obtain ⟨m, hm, rfl⟩ := List.mem_map.mp hslot
    obtain ⟨hlow, hhigh, -⟩ := (mem_steps hminutes).mp hm
    exact ⟨m, hread hm, hlow, hhigh, rfl⟩
  case increasing =>
    rw [timesBetween, List.pairwise_map]
    refine (pairwise_steps hminutes).imp_of_mem fun {m n} hm hn hlt => ?_
    exact ⟨m, n, hread hm, hread hn, hlt⟩

end

/-- Two values that write times of day and a positive whole number of minutes have exactly the times
of day in such steps from the first on and before the last as their slots, and a multiple of the
step keeps some of them.  Nothing else has slots. -/
theorem time_slots_exact (start stop step : Json) :
    ((∀ first last minutes, ¬ AsksSlots start stop step first last minutes) →
      timeSlots start stop step = []) ∧
    ∀ first last minutes, AsksSlots start stop step first last minutes →
      IsEvenTimes first last minutes (timeSlots start stop step) ∧
      ∀ times : Int, (timeSlots start stop (.int (minutes * times))).Sublist
        (timeSlots start stop step) := by
  refine ⟨timeSlots_eq_nil, fun first last minutes hasks => ?_⟩
  have hlast : last < 1440 := by
    obtain ⟨text, -, htext⟩ := Option.bind_eq_some_iff.mp hasks.stop_eq
    exact TimeOfDay.lt_of_parse? htext
  rw [timeSlots_eq_timesBetween hasks]
  refine ⟨isEvenTimes_timesBetween hlast hasks.pos, fun times => ?_⟩
  by_cases htimes : 0 < times
  · obtain ⟨n, rfl⟩ := Int.eq_ofNat_of_zero_le htimes.le
    have hn : 0 < n := Int.natCast_pos.mp htimes
    have hwide : AsksSlots start stop (.int (minutes * n)) first last (minutes * n) :=
      ⟨hasks.start_eq, hasks.stop_eq, by rw [Nat.cast_mul], Nat.mul_pos hasks.pos hn⟩
    rw [timeSlots_eq_timesBetween hwide]
    exact (steps_sublist hasks.pos hn).map _
  · have hnone : timeSlots start stop (.int (minutes * times)) = [] := by
      refine timeSlots_eq_nil fun first last wide hwide => ?_
      have hle : (minutes : Int) * times ≤ 0 :=
        Int.mul_nonpos_of_nonneg_of_nonpos (Int.natCast_nonneg _) (Int.not_lt.mp htimes)
      have heq := Json.int.inj hwide.step_eq
      have hpos := hwide.pos
      omega
    rw [hnone]
    exact List.nil_sublist _

theorem time_slots_exact_unpadded :
    AsksSlots (.str " ９:00") (.str "10:05\n") (.int 20) 540 605 20 ∧
      timeSlots (.str " ９:00") (.str "10:05\n") (.int 20) = ["09:00", "09:20", "09:40", "10:00"] ∧
      (timeSlots (.str " ９:00") (.str "10:05\n") (.int 20)).length =
        ⌈((605 : ℕ) - (540 : ℕ) : ℚ) / (20 : ℕ)⌉₊ ∧
      (timeSlots (.str " ９:00") (.str "10:05\n") (.int 40)).Sublist
        (timeSlots (.str " ９:00") (.str "10:05\n") (.int 20)) ∧
      timeSlots (.str " ９:00") (.str "10:05\n") (.bool true) = [] := by
  have hasks : AsksSlots (.str " ９:00") (.str "10:05\n") (.int 20) 540 605 20 :=
    ⟨by decide, by decide, rfl, by decide⟩
  obtain ⟨heven, hwide⟩ := (time_slots_exact _ _ _).2 540 605 20 hasks
  exact ⟨hasks, by decide +kernel, heven.length_eq, hwide 2,
    (time_slots_exact _ _ _).1 fun _ _ _ hno => Json.noConfusion hno.step_eq⟩

end SalonBooking
