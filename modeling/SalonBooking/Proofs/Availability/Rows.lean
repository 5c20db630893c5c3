import Mathlib.Data.List.Chain
import Mathlib.Data.List.Range
import Mathlib.Order.Bounds.Basic
import SalonBooking.Proofs.Availability.Slot
import SalonBooking.Proofs.Calendar.TimeOfDay

/-!
# The rows of the grid and the slots on offer

The rows of the grid lie between the earliest opening and the latest closing of
all days that open before they close, while a slot is judged by the hours of its
own day.

* `mem_steps`: the numbers from a start on in even steps.
* `rowBounds_eq`: the rows lie between the earliest opening and the latest closing.
* `rows_cover_slots`: no slot that is offered lies outside the rows, every one that
  falls on a row has it, and without usable hours nothing is offered.
-/

namespace SalonBooking

/-! ## Even steps -/

section Steps

variable {start stop step m : Nat}

theorem lt_count_iff (hstep : 0 < step) {i : Nat} :
    i < (stop - start + step - 1) / step ↔ start + i * step < stop := by
  rw [Nat.lt_div_iff_mul_lt hstep]
  omega

theorem mem_steps (hstep : 0 < step) :
    m ∈ steps start stop step ↔ start ≤ m ∧ m < stop ∧ (m - start) % step = 0 := by
  simp only [steps, List.mem_map, List.mem_range, lt_count_iff hstep]
  constructor
  · rintro ⟨i, hi, rfl⟩
    rw [Nat.add_sub_cancel_left]
    exact ⟨Nat.le_add_right _ _, hi, Nat.mul_mod_left i step⟩
  · rintro ⟨hlow, hhigh, hmultiple⟩
    have hsteps : (m - start) / step * step = m - start :=
      Nat.div_mul_cancel (Nat.dvd_of_mod_eq_zero hmultiple)
    exact ⟨(m - start) / step, by omega, by omega⟩

/-- Each number is one step after the one before it. -/
theorem isChain_steps : (steps start stop step).IsChain fun a b => b = a + step := by
  rw [steps, List.isChain_map, List.isChain_range]
  intro i _
  rw [Nat.succ_mul, Nat.add_assoc]

theorem pairwise_steps (hstep : 0 < step) : (steps start stop step).Pairwise (· < ·) := by
  rw [steps, List.pairwise_map]
  refine List.pairwise_lt_range.imp fun {a b} hab => ?_
  exact Nat.add_lt_add_left (Nat.mul_lt_mul_of_pos_right hab hstep) start

theorem head?_steps (hstep : 0 < step) (h : start < stop) :
    (steps start stop step).head? = some start := by
  have hcount : 0 < (stop - start + step - 1) / step :=
    (lt_count_iff hstep).mpr (by rw [Nat.zero_mul]; exact h)
  obtain ⟨n, hn⟩ := Nat.exists_eq_succ_of_ne_zero (Nat.ne_of_gt hcount)
  rw [steps, hn, List.range_succ_eq_map, List.map_cons, List.head?_cons, Nat.zero_mul]
  rfl

end Steps

/-! ## Usable hours -/

/-- Hours of a day that is not closed and whose times can be read, from one minute on and before a
later one. -/
def DayHours.IsUsable (hours : DayHours) (opens closes : Nat) : Prop :=
  hours.closed = false ∧ TimeOfDay.parse? hours.opens = some opens ∧
    TimeOfDay.parse? hours.closes = some closes ∧ opens < closes

namespace Schedule

variable {schedule : Schedule} {opens closes : Nat}

/-- The minutes at which the salon opens on some day. -/
def openings (schedule : Schedule) : Set Nat :=
  {opens | ∃ day closes, (schedule.hours.get day).IsUsable opens closes}

/-- The minutes at which the salon closes on some day. -/
def closings (schedule : Schedule) : Set Nat :=
  {closes | ∃ day opens, (schedule.hours.get day).IsUsable opens closes}

theorem mem_usableWindows :
    (opens, closes) ∈ schedule.usableWindows ↔
      ∃ day, (schedule.hours.get day).IsUsable opens closes := by
  simp only [usableWindows, List.mem_filter, List.mem_filterMap, Weekday.mem_all, true_and,
    DayHours.window?_eq_some_iff, decide_eq_true_eq, DayHours.IsUsable]
  constructor
  · rintro ⟨⟨day, hclosed, hopens, hcloses⟩, hlt⟩
    exact ⟨day, hclosed, hopens, hcloses, hlt⟩
  · rintro ⟨day, hclosed, hopens, hcloses, hlt⟩
    exact ⟨⟨day, hclosed, hopens, hcloses⟩, hlt⟩

theorem usableWindows_eq_nil_iff :
    schedule.usableWindows = [] ↔
      ∀ day opens closes, ¬ (schedule.hours.get day).IsUsable opens closes := by
  rw [List.eq_nil_iff_forall_not_mem]
  constructor
  · intro h day opens closes husable
    exact h _ (mem_usableWindows.mpr ⟨day, husable⟩)
  · rintro h ⟨opens, closes⟩ hmem
    obtain ⟨day, husable⟩ := mem_usableWindows.mp hmem
    exact h day opens closes husable

/-- A minute within the hours of a day lies within usable hours. -/
theorem exists_isUsable {day : Weekday} {time : String} {minutes : Nat}
    (h : (schedule.hours.get day).openMinute? time = some minutes) :
    ∃ opens closes, (schedule.hours.get day).IsUsable opens closes ∧
      TimeOfDay.parse? time = some minutes ∧ opens ≤ minutes ∧ minutes < closes := by
  obtain ⟨opens, closes, hwindow, hminutes, hlow, hhigh⟩ := DayHours.openMinute?_eq_some_iff.mp h
  obtain ⟨hclosed, hopens, hcloses⟩ := DayHours.window?_eq_some_iff.mp hwindow
  exact ⟨opens, closes, ⟨hclosed, hopens, hcloses, Nat.lt_of_le_of_lt hlow hhigh⟩, hminutes,
    hlow, hhigh⟩

/-! ## The bounds of the rows -/

/-- The two bounds are found each for itself. -/
theorem foldl_bounds (windows : List (Nat × Nat)) (w : Nat × Nat) :
    windows.foldl (fun bounds v => (min bounds.1 v.1, max bounds.2 v.2)) w =
      ((windows.map Prod.fst).foldl min w.1, (windows.map Prod.snd).foldl max w.2) := by
  induction windows generalizing w with
  | nil => rfl
  | cons v rest ih => exact ih _

/-- With usable hours the rows lie between the earliest opening and the latest closing. -/
theorem rowBounds_eq (h : schedule.usableWindows ≠ []) :
    IsLeast schedule.openings schedule.rowBounds.1 ∧
      IsGreatest schedule.closings schedule.rowBounds.2 := by
  obtain ⟨w, rest, hwindows⟩ := List.exists_cons_of_ne_nil h
  have hbounds : schedule.rowBounds =
      ((rest.map Prod.fst).foldl min w.1, (rest.map Prod.snd).foldl max w.2) := by
    rw [rowBounds, hwindows]
    exact foldl_bounds rest w
  have hmin : (schedule.usableWindows.map Prod.fst).min? = some schedule.rowBounds.1 := by
    rw [hwindows, hbounds, List.map_cons, List.min?_cons']
  have hmax : (schedule.usableWindows.map Prod.snd).max? = some schedule.rowBounds.2 := by
    rw [hwindows, hbounds, List.map_cons, List.max?_cons']
  have hopening : ∀ opens, opens ∈ schedule.usableWindows.map Prod.fst ↔
      opens ∈ schedule.openings := by
    intro opens
    simp only [List.mem_map, Prod.exists, exists_and_right, exists_eq_right, mem_usableWindows]
    exact exists_comm
  have hclosing : ∀ closes, closes ∈ schedule.usableWindows.map Prod.snd ↔
      closes ∈ schedule.closings := by
    intro closes
    simp only [List.mem_map, Prod.exists, exists_eq_right, mem_usableWindows]
    exact exists_comm
  rw [List.min?_eq_some_iff] at hmin
  rw [List.max?_eq_some_iff] at hmax
  exact ⟨⟨(hopening _).mp hmin.1, fun opens hopens => hmin.2 opens ((hopening opens).mpr hopens)⟩,
    (hclosing _).mp hmax.1, fun closes hcloses => hmax.2 closes ((hclosing closes).mpr hcloses)⟩

/-- The rows start before they end, and within a day. -/
theorem rowBounds_lt (schedule : Schedule) :
    schedule.rowBounds.1 < schedule.rowBounds.2 ∧ schedule.rowBounds.2 < 1440 := by
  by_cases h : schedule.usableWindows = []
  · have hbounds : schedule.rowBounds = fallbackRows := by
      rw [rowBounds, h]
    rw [hbounds]
    decide
  · obtain ⟨⟨⟨day, last, husable⟩, -⟩, ⟨_, _, _, _, hlast, _⟩, hgreatest⟩ := rowBounds_eq h
    exact ⟨Nat.lt_of_lt_of_le husable.2.2.2 (hgreatest ⟨day, _, husable⟩),
      TimeOfDay.lt_of_parse? hlast⟩

/-! ## The rows -/

/-- The minutes of the rows of the grid. -/
def rowMinutes (schedule : Schedule) : List Nat :=
  steps schedule.rowBounds.1 schedule.rowBounds.2 rowStep

theorem rowTimes_eq :
    schedule.rowTimes = schedule.rowMinutes.map fun (minutes : Nat) => TimeOfDay.format minutes :=
  rfl

theorem lt_of_mem_rowMinutes {minutes : Nat} (h : minutes ∈ schedule.rowMinutes) :
    minutes < 1440 :=
  Nat.lt_trans ((mem_steps (by decide)).mp h).2.1 schedule.rowBounds_lt.2

/-- The rows are read back. -/
theorem map_parse?_rowTimes :
    schedule.rowTimes.map TimeOfDay.parse? = schedule.rowMinutes.map some := by
  rw [rowTimes_eq, List.map_map]
  refine List.map_congr_left fun minutes hminutes => ?_
  rw [Function.comp_apply, TimeOfDay.parse?_format (lt_of_mem_rowMinutes hminutes)]

/-- The rows may as well be found from the bounds as they are written. -/
theorem rowTimes_eq_timesFrom :
    schedule.rowTimes = timesFrom (TimeOfDay.format schedule.rowBounds.1)
      (TimeOfDay.format schedule.rowBounds.2) rowStep := by
  obtain ⟨hlt, hday⟩ := schedule.rowBounds_lt
  rw [timesFrom, TimeOfDay.parse?_format (Nat.lt_trans hlt hday), TimeOfDay.parse?_format hday]
  rfl

theorem pairwise_rowTimes : schedule.rowTimes.Pairwise (· < ·) := by
  have hminutes : schedule.rowMinutes.Pairwise (· < ·) := pairwise_steps (by decide)
  rw [rowTimes_eq, List.pairwise_map]
  exact hminutes.imp_of_mem fun {a b} _ hb hab =>
    TimeOfDay.format_lt_format hab (lt_of_mem_rowMinutes hb)

theorem head?_rowTimes :
    schedule.rowTimes.head? = some (TimeOfDay.format schedule.rowBounds.1) := by
  rw [rowTimes_eq, List.head?_map, rowMinutes,
    head?_steps (by decide) schedule.rowBounds_lt.1]
  rfl

/-! ## Slots and rows -/

variable {zone : TimeZone} {now : Moment} {current : LocalTime} {check : Option LiveCheck}
  {asked : List (Date × String)}

/-- The minute of a slot that is offered lies within usable hours of its day. -/
theorem exists_isUsable_of_isOffered {day : Date} {time : String} {after : List (Date × String)}
    (h : schedule.isOffered zone day time now check asked = .ok (true, after)) :
    ∃ minutes opens closes, (schedule.hours.get day.weekday).IsUsable opens closes ∧
      TimeOfDay.parse? time = some minutes ∧ opens ≤ minutes ∧ minutes < closes := by
  cases hopen : (schedule.hours.get day.weekday).openMinute? time with
  | none => exact absurd (eq_false_of_openMinute?_eq_none hopen h) Bool.noConfusion
  | some minutes => exact ⟨minutes, exists_isUsable hopen⟩

/-- With the last bookable day beyond the calendar the first cell already fails. -/
theorem weekGridLive_eq_error {σ : Type} {start first : Date} {others : List Date}
    (hdays : start.weekStart.sevenDays = .ok (first :: others))
    (hnow : now.localTime zone = .ok current) (h : ¬ schedule.IsWithinCalendar current.date)
    (calendar : Option (LiveCalendar σ)) (s : σ) :
    schedule.weekGridLive zone start now calendar s = .error .outOfRange := by
  have htimes : ∃ time rest, schedule.rowTimes = time :: rest := by
    have hhead := schedule.head?_rowTimes
    cases htimes : schedule.rowTimes with
    | nil =>
      rw [htimes] at hhead
      cases hhead
    | cons time rest => exact ⟨time, rest, rfl⟩
  obtain ⟨time, rest, htimes⟩ := htimes
  have hcell : schedule.cellAt zone current calendar time first s = .error .outOfRange := by
    rw [cellAt, Live.bind_apply,
      isOfferedLive_eq_error (Moment.localTime_ofLocal current zone) h]
    rfl
  have hrow : ((first :: others).mapM (schedule.cellAt zone current calendar time)) s =
      .error .outOfRange :=
    Live.mapM_cons_of_error hcell
  rw [weekGridLive_eq, hdays, hnow, htimes]
  exact Live.mapM_cons_of_error
    (f := fun time => (first :: others).mapM (schedule.cellAt zone current calendar time)) hrow

/-- Without usable hours no cell of a grid is offered. -/
theorem eq_false_of_mem_weekGrid {start : Date} {rows : List (List Cell) × List (Date × String)}
    (hnone : schedule.usableWindows = [])
    (h : schedule.weekGrid zone start now check asked = .ok rows) :
    ∀ row ∈ rows.1, ∀ cell ∈ row, cell.offered = false := by
  rw [usableWindows_eq_nil_iff] at hnone
  intro row hrow cell hcell
  obtain ⟨-, _, _, _, hanswer⟩ := isOffered_of_mem_weekGrid h row hrow cell hcell
  cases hoffered : cell.offered with
  | false => rfl
  | true =>
    rw [hoffered] at hanswer
    obtain ⟨_, _, _, husable, _⟩ := exists_isUsable_of_isOffered hanswer
    exact absurd husable (hnone _ _ _)

/-- The rows cover the slots on offer.  A slot that is offered lies from the first row on and before
the latest closing, and has a row of its own if it is any number of steps after the first one.  The
rows come in their order, one step apart, and can be read back; they are those between the earliest
opening and the latest closing.  Without usable hours no cell is offered. -/
theorem rows_cover_slots (schedule : Schedule) :
    (∀ zone day time now check asked after,
      schedule.isOffered zone day time now check asked = .ok (true, after) →
      ∃ minutes first latest, TimeOfDay.parse? time = some minutes ∧
        IsLeast schedule.openings first ∧ IsGreatest schedule.closings latest ∧
        schedule.usableWindows ≠ [] ∧ schedule.rowTimes.head? = some (TimeOfDay.format first) ∧
        first ≤ minutes ∧ minutes < latest ∧
        ((minutes - first) % rowStep = 0 →
          TimeOfDay.format minutes ∈ schedule.rowTimes)) ∧
    (schedule.rowTimes = timesFrom (TimeOfDay.format schedule.rowBounds.1)
        (TimeOfDay.format schedule.rowBounds.2) rowStep ∧
      schedule.rowTimes.Pairwise (· < ·) ∧
      ∃ minutes : List Nat, schedule.rowTimes.map TimeOfDay.parse? = minutes.map some ∧
        minutes.Pairwise (· < ·) ∧ minutes.IsChain fun a b => b = a + rowStep) ∧
    ((∀ day opens closes, ¬ (schedule.hours.get day).IsUsable opens closes) →
      ∀ zone start now check asked rows after,
        schedule.weekGrid zone start now check asked = .ok (rows, after) →
        ∀ row ∈ rows, ∀ cell ∈ row, cell.offered = false) := by
  refine ⟨?offered, ⟨rowTimes_eq_timesFrom, pairwise_rowTimes, schedule.rowMinutes,
    map_parse?_rowTimes, pairwise_steps (by decide), isChain_steps⟩, ?closed⟩
  case offered =>
    intro zone day time now check asked after h
    obtain ⟨minutes, opens, closes, husable, hminutes, hlow, hhigh⟩ :=
      exists_isUsable_of_isOffered h
    have hwindows : schedule.usableWindows ≠ [] :=
      List.ne_nil_of_mem (mem_usableWindows.mpr ⟨_, husable⟩)
    obtain ⟨hleast, hgreatest⟩ := rowBounds_eq hwindows
    have hfirst : schedule.rowBounds.1 ≤ minutes :=
      Nat.le_trans (hleast.2 ⟨_, _, husable⟩) hlow
    have hlatest : minutes < schedule.rowBounds.2 :=
      Nat.lt_of_lt_of_le hhigh (hgreatest.2 ⟨_, _, husable⟩)
    refine ⟨minutes, _, _, hminutes, hleast, hgreatest, hwindows, head?_rowTimes, hfirst,
      hlatest, fun hmultiple => ?_⟩
    rw [rowTimes_eq]
    exact List.mem_map_of_mem ((mem_steps (by decide)).mpr ⟨hfirst, hlatest, hmultiple⟩)
  case closed =>
    intro hnone zone start now check asked rows after h
    exact eq_false_of_mem_weekGrid (usableWindows_eq_nil_iff.mpr hnone) h

/-- A week of uneven hours: one day opens at ten past nine, one is entered in digits of another
script, two say nothing that can be used, and the others are closed. -/
def unevenWeek : Schedule where
  hours := .ofFunction fun
    | .monday => ⟨"09:10", "12:00", false⟩
    | .tuesday => ⟨"18:00", "08:00", false⟩
    | .wednesday => ⟨"early", "21:00", false⟩
    | .thursday => ⟨"１４:００", "20:05", false⟩
    | _ => ⟨"08:00", "22:00", true⟩
  advanceDays := 30
  mode := .calendar
  multipleDates := ⟨.halfHour, 30, [], "09:00", "18:00"⟩

/-- A week of which every day is closed. -/
def closedWeek : Schedule :=
  { unevenWeek with hours := .ofFunction fun _ => ⟨"09:00", "18:00", true⟩ }

/-- The morning of Monday, 6 January 2025. -/
def mondayMorning : Moment := ⟨⟨⟨739257, by decide⟩, 8 * 60 * microsPerMinute, by decide⟩, none⟩

/-- Twenty to eleven on a Monday is offered in the uneven week and has its row; in the closed week
no cell is. -/
theorem rows_of_uneven_and_closed_week :
    unevenWeek.isOffered .tokyo mondayMorning.clock.date "１０:４０" mondayMorning none [] =
        .ok (true, []) ∧
      "10:40" ∈ unevenWeek.rowTimes ∧
      (∀ day opens closes, ¬ (closedWeek.hours.get day).IsUsable opens closes) ∧
      ∃ rows after, closedWeek.weekGrid .tokyo mondayMorning.clock.date mondayMorning none [] =
          .ok (rows, after) ∧ rows.length = 18 ∧
        ∀ row ∈ rows, ∀ cell ∈ row, cell.offered = false := by
  have hoffered : unevenWeek.isOffered .tokyo mondayMorning.clock.date "１０:４０" mondayMorning
      none [] = .ok (true, []) := by
    rfl
  have hclosed : ∀ day opens closes, ¬ (closedWeek.hours.get day).IsUsable opens closes := by
    intro day opens closes husable
    have hclosed := husable.1
    rw [closedWeek, WeekHours.get_ofFunction] at hclosed
    cases hclosed
  have hminutes : TimeOfDay.parse? "１０:４０" = some 640 := by decide +kernel
  have hbounds : unevenWeek.rowBounds.1 = 550 := by decide +kernel
  have hlength : (closedWeek.weekGrid .tokyo mondayMorning.clock.date mondayMorning none []).map
      (fun found => found.1.length) = .ok 18 := by
    rfl
  refine ⟨hoffered, ?_, hclosed, ?_⟩
  · obtain ⟨minutes, first, _, hparse, hleast, _, hwindows, _, _, _, hrow⟩ :=
      (rows_cover_slots unevenWeek).1 _ _ _ _ _ _ _ hoffered
    obtain rfl : minutes = 640 := Option.some.inj (hparse.symm.trans hminutes)
    obtain rfl : first = 550 := (hleast.unique (rowBounds_eq hwindows).1).trans hbounds
    exact hrow (by decide)
  · cases hgrid : closedWeek.weekGrid .tokyo mondayMorning.clock.date mondayMorning none [] with
    | error e =>
      rw [hgrid] at hlength
      cases hlength
    | ok found =>
      rw [hgrid] at hlength
      exact ⟨found.1, found.2, rfl, Except.ok.inj hlength,
        (rows_cover_slots closedWeek).2.2 hclosed _ _ _ _ _ _ _ hgrid⟩

end Schedule

end SalonBooking
