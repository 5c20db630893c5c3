import SalonBooking.Proofs.Availability.Rows
import SalonBooking.Proofs.Calendar.Week

/-!
# What the live calendar is asked

The grid may be found in two passes: first the one of the window rules alone, which
asks nobody, and then, row by row, the live calendar about each slot that is offered
in it.  What a live calendar is asked is recorded by one that passes every question
on and keeps it with its answer.

* `Live.mapM_recorded`: recording changes nothing else.
* `Schedule.weekGridLive_eq_ask`, `Schedule.weekGridLive_none`: the two passes.
* `Schedule.exists_calls`: the questions, in their order, and what they decide.
* `Schedule.weekGrid_some`: with a live check the answers are known beforehand.
-/

namespace SalonBooking

/-! ## Recording -/

/-- A question to a live calendar, with its answer. -/
structure Call where
  day : Date
  time : String
  answer : Bool
  deriving DecidableEq

/-- The slot that a question is about. -/
def Call.slot (call : Call) : Date × String := (call.day, call.time)

/-- A live calendar that keeps the questions that it was asked, with its answers. -/
def LiveCalendar.recorded {σ : Type} (calendar : LiveCalendar σ) : LiveCalendar (σ × List Call) :=
  fun day time state => (calendar day time state.1).map fun (answer, after) =>
    (answer, after, state.2 ++ [⟨day, time, answer⟩])

/-- Items, what becomes of each, and all questions asked for that, one item after another. -/
inductive Along {α β : Type} (R : α → β → List Call → Prop) : List α → List β → List Call → Prop
  | nil : Along R [] [] []
  | cons {a : α} {b : β} {calls later : List Call} {as : List α} {bs : List β} :
    R a b calls → Along R as bs later → Along R (a :: as) (b :: bs) (calls ++ later)

namespace Along

variable {α β : Type} {R : α → β → List Call → Prop} {as : List α} {bs : List β}
  {calls : List Call}

/-- If the questions for each item are about known slots, so are those for all items, in their
order. -/
theorem map_slot {slots : α → List (Date × String)} (h : Along R as bs calls)
    (hR : ∀ a b own, R a b own → own.map Call.slot = slots a) :
    calls.map Call.slot = as.flatMap slots := by
  induction h with
  | nil => rfl
  | cons hfirst _ ih => rw [List.map_append, List.flatMap_cons, hR _ _ _ hfirst, ih]

/-- If the questions for each item say what becomes of it, so do the questions for all. -/
theorem eq_map {g : α → β} {all : List Call} (h : Along R as bs calls)
    (hR : ∀ a b own, R a b own → own ⊆ all → b = g a) (hsubset : calls ⊆ all) :
    bs = as.map g := by
  induction h with
  | nil => rfl
  | cons hfirst _ ih =>
    obtain ⟨hown, hlater⟩ := List.append_subset.mp hsubset
    rw [List.map_cons, hR _ _ _ hfirst hown, ih hlater]

end Along

namespace Live

variable {σ α β : Type} {f : α → Live σ β}

/-- If each inquiry can be recorded, so can all of them, one after another. -/
theorem mapM_recorded {f' : α → Live (σ × List Call) β} {R : α → β → List Call → Prop}
    (hstep : ∀ a s b s', f a s = .ok (b, s') → ∃ calls, R a b calls ∧
      ∀ earlier, f' a (s, earlier) = .ok (b, s', earlier ++ calls))
    {as : List α} {bs : List β} {s s' : σ} (h : as.mapM f s = .ok (bs, s')) :
    ∃ calls, Along R as bs calls ∧
      ∀ earlier, as.mapM f' (s, earlier) = .ok (bs, s', earlier ++ calls) := by
  induction as generalizing s bs with
  | nil =>
    obtain ⟨rfl, rfl⟩ := Prod.mk.inj (Except.ok.inj h)
    exact ⟨[], .nil, fun earlier => by rw [List.append_nil]; rfl⟩
  | cons a rest ih =>
    rw [List.mapM_cons] at h
    obtain ⟨⟨b, s₁⟩, hfirst, h⟩ := bind_eq_ok_iff.mp h
    obtain ⟨⟨others, s₂⟩, hothers, h⟩ := bind_eq_ok_iff.mp h
    obtain ⟨rfl, rfl⟩ := Prod.mk.inj (Except.ok.inj h)
    obtain ⟨calls, hR, hcalls⟩ := hstep a s b s₁ hfirst
    obtain ⟨later, halong, hlater⟩ := ih hothers
    refine ⟨calls ++ later, .cons hR halong, fun earlier => ?_⟩
    rw [List.mapM_cons]
    refine bind_eq_ok_iff.mpr ⟨_, hcalls earlier, bind_eq_ok_iff.mpr ⟨_, hlater _, ?_⟩⟩
    rw [← List.append_assoc]
    rfl

/-- Inquiries whose answers do not depend on the state. -/
theorem mapM_eq_ok_map {g : α → β} (hstep : ∀ a s, ∃ s', f a s = .ok (g a, s')) (as : List α)
    (s : σ) : ∃ s', as.mapM f s = .ok (as.map g, s') := by
  induction as generalizing s with
  | nil => exact ⟨s, rfl⟩
  | cons a rest ih =>
    obtain ⟨s₁, hfirst⟩ := hstep a s
    obtain ⟨s₂, hothers⟩ := ih s₁
    refine ⟨s₂, ?_⟩
    rw [List.mapM_cons]
    exact bind_eq_ok_iff.mpr ⟨_, hfirst, bind_eq_ok_iff.mpr ⟨_, hothers, rfl⟩⟩

end Live

/-! ## Asking about cells -/

namespace Cell

/-- The slot that a cell is about. -/
def slot (cell : Cell) : Date × String := (cell.date, cell.time)

/-- A cell after the live calendar was asked about it, if there is one and the cell is offered at
all. -/
def ask {σ : Type} (calendar : Option (LiveCalendar σ)) (cell : Cell) : Live σ Cell :=
  match calendar with
  | none => return cell
  | some calendar =>
    if cell.offered then do
      let answer ← calendar cell.date cell.time
      return { cell with offered := answer }
    else return cell

/-- A cell that is offered if it was and a question about it was answered so. -/
def answeredBy (cell : Cell) (calls : List Call) : Cell :=
  { cell with offered := cell.offered && calls.contains ⟨cell.date, cell.time, true⟩ }

/-- A cell that is offered if it was and a live check says that its slot is free. -/
def onlyIf (cell : Cell) (check : LiveCheck) : Cell :=
  { cell with offered := cell.offered && check cell.date cell.time }

/-- A cell and what becomes of it after a question or none. -/
inductive BecomesBy : Cell → Cell → List Call → Prop
  | shut {cell : Cell} : cell.offered = false → BecomesBy cell cell []
  | asked {cell : Cell} (answer : Bool) : cell.offered = true →
    BecomesBy cell { cell with offered := answer } [⟨cell.date, cell.time, answer⟩]

variable {σ : Type} {calendar : LiveCalendar σ} {cell answered : Cell} {own calls : List Call}
  {s s' : σ}

theorem BecomesBy.map_slot (h : cell.BecomesBy answered calls) :
    calls.map Call.slot = ([cell].filter (·.offered)).map slot := by
  cases h with
  | shut hoffered => rw [List.filter_singleton, hoffered]; rfl
  | asked answer hoffered => rw [List.filter_singleton, hoffered]; rfl

/-- If no slot is asked about twice, a cell is what its question says. -/
theorem BecomesBy.eq_answeredBy (h : cell.BecomesBy answered own) (hsubset : own ⊆ calls)
    (hnodup : (calls.map Call.slot).Nodup) : answered = cell.answeredBy calls := by
  cases h with
  | shut hoffered => rw [answeredBy, hoffered, Bool.false_and, ← hoffered]
  | asked answer hoffered =>
    have hcall := hsubset List.mem_cons_self
    have hanswer : calls.contains ⟨cell.date, cell.time, true⟩ = answer := by
      rw [Bool.eq_iff_iff, List.contains_iff_mem]
      constructor
      · intro htrue
        have hsame := List.inj_on_of_nodup_map hnodup htrue hcall rfl
        exact (Call.mk.inj hsame).2.2.symm
      · rintro rfl
        exact hcall
    rw [answeredBy, hoffered, hanswer, Bool.true_and]

theorem ask_recorded (h : ask (some calendar) cell s = .ok (answered, s')) :
    ∃ calls, cell.BecomesBy answered calls ∧ ∀ earlier,
      ask (some calendar.recorded) cell (s, earlier) = .ok (answered, s', earlier ++ calls) := by
  cases hoffered : cell.offered with
  | false =>
    rw [ask, hoffered] at h
    obtain ⟨rfl, rfl⟩ := Prod.mk.inj (Except.ok.inj h)
    refine ⟨[], .shut hoffered, fun earlier => ?_⟩
    rw [ask, hoffered, List.append_nil]
    rfl
  | true =>
    rw [ask, hoffered] at h
    obtain ⟨⟨answer, s₁⟩, hanswer, h⟩ := Live.bind_eq_ok_iff.mp h
    obtain ⟨rfl, rfl⟩ := Prod.mk.inj (Except.ok.inj h)
    refine ⟨_, .asked answer hoffered, fun earlier => ?_⟩
    have hrecorded : calendar.recorded cell.date cell.time (s, earlier) =
        .ok (answer, s₁, earlier ++ [⟨cell.date, cell.time, answer⟩]) := by
      rw [LiveCalendar.recorded, hanswer]
      rfl
    rw [ask, hoffered]
    exact Live.bind_eq_ok_iff.mpr ⟨_, hrecorded, rfl⟩

/-- The questions for a row are about the slots that it offers. -/
theorem map_slot_of_along {row becomes : List Cell} (h : Along BecomesBy row becomes calls) :
    calls.map Call.slot = (row.filter (·.offered)).map slot := by
  rw [h.map_slot fun _ _ _ => BecomesBy.map_slot, ← List.map_flatMap, ← List.filter_flatMap,
    List.flatMap_singleton']

theorem mapM_ask_recorded {row becomes : List Cell}
    (h : row.mapM (ask (some calendar)) s = .ok (becomes, s')) :
    ∃ calls, Along BecomesBy row becomes calls ∧ ∀ earlier,
      row.mapM (ask (some calendar.recorded)) (s, earlier) = .ok (becomes, s', earlier ++ calls) :=
  Live.mapM_recorded (fun _ _ _ _ => ask_recorded) h

end Cell

/-! ## The two passes -/

/-- The slots that the cells of some rows offer, in the order of the cells. -/
def offeredSlots (rows : List (List Cell)) : List (Date × String) :=
  (rows.flatten.filter (·.offered)).map Cell.slot

namespace Schedule

variable {σ : Type} {schedule : Schedule} {zone : TimeZone} {start : Date} {now : Moment}
  {current : LocalTime} {calendar : Option (LiveCalendar σ)} {window grid : List (List Cell)}
  {s s' : σ}

/-- The grid of the window rules, if the last bookable day lies within the calendar. -/
def windowGrid (schedule : Schedule) (zone : TimeZone) (start : Date) (now : Moment) :
    Except CalendarError (List (List Cell)) := do
  let days ← start.weekStart.sevenDays
  let current ← now.localTime zone
  if schedule.IsWithinCalendar current.date then
    return schedule.rowTimes.map fun time =>
      days.map fun day => ⟨day, time, schedule.verdict day time current⟩
  else throw .outOfRange

/-- A cell is that of the window rules, and then the live calendar is asked about it. -/
theorem cellAt_eq_ask (h : schedule.IsWithinCalendar current.date) (time : String) :
    schedule.cellAt zone current calendar time =
      fun day => Cell.ask calendar ⟨day, time, schedule.verdict day time current⟩ := by
  funext day s
  rw [cellAt, Live.bind_apply, isOfferedLive_ofLocal h]
  cases calendar <;> rw [Cell.ask] <;> cases schedule.verdict day time current <;> rfl

/-- First the window rules are asked about every slot, then the live calendar about those that they
offer. -/
theorem weekGridLive_eq_ask :
    schedule.weekGridLive zone start now calendar s =
      (schedule.windowGrid zone start now).bind fun window =>
        window.mapM (List.mapM (Cell.ask calendar)) s := by
  rw [weekGridLive_eq, windowGrid]
  cases hdays : start.weekStart.sevenDays with
  | error e => rfl
  | ok days =>
    cases hnow : now.localTime zone with
    | error e => rfl
    | ok current =>
      by_cases h : schedule.IsWithinCalendar current.date
      · simp only [if_pos h, cellAt_eq_ask h, bind, Except.bind, pure, Except.pure, List.mapM_map,
          Function.comp_def]
      · -- Beyond the horizon the first cell already fails, whatever the live calendar.
        obtain ⟨first, others, rfl⟩ : ∃ first others, days = first :: others :=
          List.exists_cons_of_length_eq_add_one (Date.length_sevenDays hdays)
        have hgrid := weekGridLive_eq_error hdays hnow h calendar s
        rw [weekGridLive_eq, hdays, hnow] at hgrid
        simp only [if_neg h, bind, Except.bind] at hgrid ⊢
        exact hgrid

theorem weekGridLive_none :
    schedule.weekGridLive zone start now none s =
      (schedule.windowGrid zone start now).map fun window => (window, s) := by
  have hask : (Cell.ask none : Cell → Live σ Cell) = pure := rfl
  rw [weekGridLive_eq_ask, hask]
  cases schedule.windowGrid zone start now with
  | error e => rfl
  | ok window =>
    have hpure {α : Type} : List.mapM (pure : α → Live σ α) = pure := by
      funext as
      rw [List.mapM_pure, List.map_id']
    rw [hpure, hpure]
    rfl

/-- No slot has two cells: the rows have different times, and the days of a week are different. -/
theorem nodup_offeredSlots (h : schedule.windowGrid zone start now = .ok window) :
    (offeredSlots window).Nodup := by
  obtain ⟨days, hdays, h⟩ := SalonBooking.bind_eq_ok_iff.mp h
  obtain ⟨current, -, h⟩ := SalonBooking.bind_eq_ok_iff.mp h
  have hslots : window.flatten.map Cell.slot = (schedule.rowTimes ×ˢ days).map Prod.swap := by
    split at h
    · obtain rfl := Except.ok.inj h
      simp only [List.flatten_eq_flatMap, List.flatMap_map, List.map_flatMap, List.map_map,
        SProd.sprod, List.product, Function.comp_def, Cell.slot, id, Prod.swap_prod_mk]
    · cases h
  have hnodup : (window.flatten.map Cell.slot).Nodup := by
    rw [hslots]
    have hrows : schedule.rowTimes.Nodup := pairwise_rowTimes.imp fun hlt => ne_of_lt hlt
    exact (hrows.product (Date.nodup_sevenDays hdays)).map Prod.swap_injective
  exact hnodup.sublist (List.filter_sublist.map Cell.slot)

/-- A live calendar is asked about each slot that the window rules offer, in the order of the cells,
and about no other; and that it is asked, and what it says, decides about each cell. -/
theorem exists_calls {calendar : LiveCalendar σ}
    (h : schedule.weekGridLive zone start now (some calendar) s = .ok (grid, s')) :
    ∃ window calls, schedule.windowGrid zone start now = .ok window ∧
      (∀ earlier, schedule.weekGridLive zone start now (some calendar.recorded) (s, earlier) =
        .ok (grid, s', earlier ++ calls)) ∧
      calls.map Call.slot = offeredSlots window ∧
      grid = window.map (List.map (·.answeredBy calls)) := by
  rw [weekGridLive_eq_ask] at h
  obtain ⟨window, hwindow, h⟩ := SalonBooking.bind_eq_ok_iff.mp h
  obtain ⟨calls, halong, hrecorded⟩ :=
    Live.mapM_recorded (fun _ _ _ _ => Cell.mapM_ask_recorded) h
  have hslots : calls.map Call.slot = offeredSlots window := by
    rw [halong.map_slot fun _ _ _ => Cell.map_slot_of_along, ← List.map_flatMap,
      ← List.filter_flatMap, List.flatMap_id']
    rfl
  have hnodup : (calls.map Call.slot).Nodup := by
    rw [hslots]
    exact nodup_offeredSlots hwindow
  refine ⟨window, calls, hwindow, fun earlier => ?_, hslots, ?_⟩
  · rw [weekGridLive_eq_ask, hwindow]
    exact hrecorded earlier
  · refine halong.eq_map (fun _ _ _ hrow hown => ?_) (List.Subset.refl calls)
    exact hrow.eq_map (fun _ _ _ hcell hown => hcell.eq_answeredBy hown hnodup) hown

/-- A live check narrows the grid of the window rules down. -/
theorem weekGrid_some (check : LiveCheck) (asked : List (Date × String)) :
    (schedule.weekGrid zone start now (some check) asked).map Prod.fst =
      (schedule.windowGrid zone start now).map fun window =>
        window.map (List.map (·.onlyIf check)) := by
  have hcell (cell : Cell) (s : List (Date × String)) :
      ∃ s', Cell.ask (some check.ask) cell s = .ok (cell.onlyIf check, s') := by
    obtain ⟨day, time, offered⟩ := cell
    cases offered with
    | false => exact ⟨s, rfl⟩
    | true => exact ⟨s ++ [(day, time)], rfl⟩
  rw [weekGrid, Option.map_some, weekGridLive_eq_ask]
  cases schedule.windowGrid zone start now with
  | error e => rfl
  | ok window =>
    obtain ⟨after, hrows⟩ := Live.mapM_eq_ok_map (Live.mapM_eq_ok_map hcell) window asked
    exact congrArg (Except.map Prod.fst) hrows

end Schedule

end SalonBooking
