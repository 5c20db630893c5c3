import SalonBooking.Proofs.Availability.Horizon
import SalonBooking.Proofs.Availability.LiveCalendar

/-!
# Taken slots

The service is told which slots are taken, and says so to the grid when it is
asked.  It is asked about the slots that the window rules offer, once about each, so
what it offers is what they do, less what is taken.

* `AvailabilityRequest.offers_withTaken`, `AvailabilityRequest.exists_answer_withTaken`: what
  the service tells for all lists of taken slots.
* `live_calendar_asked_once`: what a live calendar is asked, and what comes of it.
-/

namespace SalonBooking

/-- A cell that is offered if it was and its day and time, as they are written, are not taken. -/
def Cell.unlessTaken (cell : Cell) (taken : List (String × String)) : Cell :=
  { cell with offered := cell.offered && !taken.contains (cell.date.iso, cell.time) }

theorem Cell.unlessTaken_append (cell : Cell) (taken added : List (String × String)) :
    cell.unlessTaken (taken ++ added) = (cell.unlessTaken taken).unlessTaken added := by
  simp only [unlessTaken, List.contains_append, Bool.not_or, Bool.and_assoc]

namespace AvailabilityRequest

/-- The request with other slots taken. -/
def withTaken (request : AvailabilityRequest) (taken : List (String × String)) :
    AvailabilityRequest :=
  { request with unavailable := taken }

variable {limits : Limits} {request : AvailabilityRequest} {config : FormConfig} {zone : TimeZone}
  {clock : Moment} {current : LocalTime} {taken taken' : List (String × String)}

/-- Which slots are taken matters, but not how they are listed. -/
theorem answer_withTaken_congr (h : ∀ slot, slot ∈ taken ↔ slot ∈ taken') :
    (request.withTaken taken).answer limits zone clock =
      (request.withTaken taken').answer limits zone clock := by
  have hcontains (slot : String × String) : taken.contains slot = taken'.contains slot := by
    rw [Bool.eq_iff_iff, List.contains_iff_mem, List.contains_iff_mem, h]
  simp only [answer, offers, withTaken, hcontains]

section Calendar

variable {monday : Date} (hmode : config.isMultipleDates = false)
  (hnow : (request.now.getD clock).localTime zone = .ok current)
  (hmonday : (request.start.getD current.date).weekStart = monday)

include hmode hnow hmonday

/-- In calendar mode the service tells the grid of the window rules without the taken slots. -/
theorem offers_withTaken (taken : List (String × String)) :
    (request.withTaken taken).offers zone clock config =
      (config.schedule.windowGrid zone monday (.ofLocal current)).bind fun window =>
        monday.sevenDays.map fun days =>
          config.weekJson monday days (window.map (List.map (·.unlessTaken taken))) := by
  have hrequest : ((request.withTaken taken).now.getD clock).localTime zone = .ok current := hnow
  rw [offers_eq_weekGrid hrequest hmode hmonday, Schedule.weekGrid_some, bind_map_eq]
  rfl

theorem exists_answer_withTaken {window : List (List Cell)}
    (hconfig : normalize limits (.value request.config) = .ok config)
    (hwindow : config.schedule.windowGrid zone monday (.ofLocal current) = .ok window) :
    ∃ days, monday.sevenDays = .ok days ∧ ∀ taken,
      (request.withTaken taken).answer limits zone clock = .json 200 (config.weekJson monday days
        (window.map (List.map (·.unlessTaken taken)))) := by
  obtain ⟨days, hdays, -⟩ := bind_eq_ok_iff.mp hwindow
  rw [← hmonday, Date.weekStart_weekStart, hmonday] at hdays
  refine ⟨days, hdays, fun taken => answer_eq_json hconfig ?_⟩
  rw [offers_withTaken hmode hnow hmonday, hwindow]
  simp only [Except.bind, hdays, Except.map]

theorem answer_withTaken_eq_failed {e : CalendarError}
    (hconfig : normalize limits (.value request.config) = .ok config)
    (hwindow : config.schedule.windowGrid zone monday (.ofLocal current) = .error e)
    (taken : List (String × String)) :
    (request.withTaken taken).answer limits zone clock = .failed := by
  refine answer_eq_failed (e := e) hconfig ?_
  rw [offers_withTaken hmode hnow hmonday, hwindow]
  rfl

end Calendar

end AvailabilityRequest

/-- A live calendar is asked once about each slot that the window rules offer, in the order of the
cells, and about no other, and a cell is offered if they offer it and the answer to its question is
yes.  So the service in calendar mode offers what the window rules do, unless it is taken: it does
not matter in which order or how often taken slots are told, and further ones take away just the
cells that they name. -/
theorem live_calendar_asked_once :
    (∀ (σ : Type) (schedule : Schedule) (zone : TimeZone) (start : Date) (now : Moment)
      (calendar : LiveCalendar σ) (s s' : σ) (grid : List (List Cell)),
      schedule.weekGridLive zone start now (some calendar) s = .ok (grid, s') →
      ∃ window calls, schedule.weekGridLive zone start now none s = .ok (window, s) ∧
        schedule.weekGridLive zone start now (some calendar.recorded) (s, []) =
          .ok (grid, s', calls) ∧
        calls.map Call.slot = offeredSlots window ∧ (offeredSlots window).Nodup ∧
        grid = window.map (List.map (·.answeredBy calls))) ∧
    (∀ (limits : Limits) (request : AvailabilityRequest) (zone : TimeZone) (clock : Moment)
      (config : FormConfig) (current : LocalTime) (monday : Date),
      normalize limits (.value request.config) = .ok config →
      config.isMultipleDates = false → (request.now.getD clock).localTime zone = .ok current →
      (request.start.getD current.date).weekStart = monday →
      (∀ window asked, config.schedule.weekGrid zone monday (.ofLocal current) none [] =
          .ok (window, asked) →
        ∃ days, monday.sevenDays = .ok days ∧ ∀ taken, ∃ rows,
          rows = window.map (List.map (·.unlessTaken taken)) ∧
          (request.withTaken taken).answer limits zone clock =
            .json 200 (config.weekJson monday days rows) ∧
          ∀ added, (request.withTaken (taken ++ added)).answer limits zone clock =
            .json 200 (config.weekJson monday days
              (rows.map (List.map (·.unlessTaken added))))) ∧
      (∀ e, config.schedule.weekGrid zone monday (.ofLocal current) none [] = .error e →
        ∀ taken, (request.withTaken taken).answer limits zone clock = .failed)) ∧
    ∀ (limits : Limits) (request : AvailabilityRequest) (zone : TimeZone) (clock : Moment)
      (taken taken' : List (String × String)), (∀ slot, slot ∈ taken ↔ slot ∈ taken') →
      (request.withTaken taken).answer limits zone clock =
        (request.withTaken taken').answer limits zone clock := by
  refine ⟨?calls, ?taken, ?order⟩
  case calls =>
    intro σ schedule zone start now calendar s s' grid h
    obtain ⟨window, calls, hwindow, hrecorded, hslots, hgrid⟩ := Schedule.exists_calls h
    refine ⟨window, calls, ?_, hrecorded [], hslots, Schedule.nodup_offeredSlots hwindow, hgrid⟩
    rw [Schedule.weekGridLive_none, hwindow]
    rfl
  case taken =>
    intro limits request zone clock config current monday hconfig hmode hnow hmonday
    rw [Schedule.weekGrid, Option.map_none, Schedule.weekGridLive_none]
    cases hwindow : config.schedule.windowGrid zone monday (.ofLocal current) with
    | error e =>
      constructor
      · intro _ _ hgrid
        cases hgrid
      · intro _ _ taken
        exact AvailabilityRequest.answer_withTaken_eq_failed hmode hnow hmonday hconfig hwindow
          taken
    | ok window =>
      obtain ⟨days, hdays, htaken⟩ :=
        AvailabilityRequest.exists_answer_withTaken hmode hnow hmonday hconfig hwindow
      constructor
      · intro _ _ hgrid
        cases hgrid
        refine ⟨days, hdays, fun taken => ⟨_, rfl, htaken taken, fun added => ?_⟩⟩
        rw [htaken, List.map_map]
        simp only [Function.comp_def, List.map_map, Cell.unlessTaken_append]
      · intro _ hgrid
        cases hgrid
  case order =>
    intro limits request zone clock taken taken'
    exact AvailabilityRequest.answer_withTaken_congr

/-- A live calendar that says yes to every other question. -/
def everyOther : LiveCalendar Nat := fun _ _ asked => .ok (asked % 2 == 0, asked + 1)

/-- Ten to seven in the evening of Thursday, 9 January 2025. -/
def thursdayEvening : LocalTime := ⟨⟨739260, by decide⟩, 1130 * microsPerMinute, by decide⟩

/-- A request of that evening, which tells twice that ten o'clock on Friday is taken. -/
def fridayRequest : AvailabilityRequest :=
  ⟨.obj [], none, some (.ofLocal thursdayEvening),
    [("2025-01-10", "10:00"), ("2025-01-10", "10:00")]⟩

/-- The slots of that Friday and Saturday but for the one that is taken. -/
def fridayAndSaturday : List (Date × String) :=
  (timesFrom "09:00" "18:00" 30).flatMap fun time =>
    if time = "10:00" then [(⟨739262, by decide⟩, time)]
    else [(⟨739261, by decide⟩, time), (⟨739262, by decide⟩, time)]

/-- In the uneven week two slots are left on that evening: the calendar is asked about both, and
gives the first.  A salon that says nothing has Friday and Saturday left, without the slot that is
taken. -/
theorem live_calendar_asked_once_thursday :
    (∃ grid, Schedule.unevenWeek.weekGridLive .tokyo thursdayEvening.date
        (.ofLocal thursdayEvening) (some everyOther.recorded) (0, []) =
          .ok (grid, 2, [⟨thursdayEvening.date, "19:10", true⟩,
            ⟨thursdayEvening.date, "19:40", false⟩]) ∧
      offeredSlots grid = [(thursdayEvening.date, "19:10")]) ∧
    normalize .standard (.value fridayRequest.config) = .ok (bareConfig (.obj [])) ∧
    ∃ days rows, fridayRequest.answer .standard .tokyo Schedule.mondayMorning =
        .json 200 ((bareConfig (.obj [])).weekJson thursdayEvening.date.weekStart days rows) ∧
      offeredSlots rows = fridayAndSaturday := by
  obtain ⟨hlive, hservice, horder⟩ := live_calendar_asked_once
  refine ⟨?evening, normalize_nothing, ?friday⟩
  case evening =>
    have hasked : (Schedule.unevenWeek.weekGridLive .tokyo thursdayEvening.date
        (.ofLocal thursdayEvening) (some everyOther) 0).map
          (fun found => (offeredSlots found.1, found.2)) =
        .ok ([(thursdayEvening.date, "19:10")], 2) := by
      decide +kernel
    have hcalls : (Schedule.unevenWeek.weekGridLive .tokyo thursdayEvening.date
        (.ofLocal thursdayEvening) (some everyOther.recorded) (0, [])).map (·.2.2) =
        .ok [⟨thursdayEvening.date, "19:10", true⟩, ⟨thursdayEvening.date, "19:40", false⟩] := by
      decide +kernel
    obtain ⟨⟨grid, _⟩, hgrid, hfound⟩ := map_eq_ok_iff.mp hasked
    obtain ⟨hoffered, rfl⟩ := Prod.mk.inj hfound
    obtain ⟨window, calls, -, hrecorded, -⟩ := hlive _ _ _ _ _ _ _ _ _ hgrid
    rw [hrecorded] at hcalls
    obtain rfl := Except.ok.inj hcalls
    exact ⟨grid, hrecorded, hoffered⟩
  case friday =>
    have htwice : fridayRequest.answer .standard .tokyo Schedule.mondayMorning =
        (fridayRequest.withTaken [("2025-01-10", "10:00")]).answer .standard .tokyo
          Schedule.mondayMorning :=
      horder .standard fridayRequest .tokyo Schedule.mondayMorning _ _ (by simp)
    obtain ⟨hweek, -⟩ := hservice .standard fridayRequest .tokyo Schedule.mondayMorning _
      thursdayEvening _ normalize_nothing (by decide +kernel) rfl rfl
    have hslots : ((bareConfig (.obj [])).schedule.weekGrid .tokyo
        thursdayEvening.date.weekStart (.ofLocal thursdayEvening) none []).map
          (fun found => offeredSlots
            (found.1.map (List.map (·.unlessTaken [("2025-01-10", "10:00")])))) =
        .ok fridayAndSaturday := by
      decide +kernel
    obtain ⟨⟨window, asked⟩, hgrid, hfound⟩ := map_eq_ok_iff.mp hslots
    obtain ⟨days, -, htaken⟩ := hweek _ _ hgrid
    obtain ⟨rows, rfl, hanswer, -⟩ := htaken [("2025-01-10", "10:00")]
    exact ⟨days, _, htwice.trans hanswer, hfound⟩

end SalonBooking
