import SalonBooking.Proofs.Availability.Interval
import SalonBooking.Proofs.Calendar.Week

/-!
# The columns of the grid

The grid shows the whole week of its day, and each column is judged by the hours
of its own day of the week: the first by those of Monday, the last by those of
Sunday.

* `Schedule.weekGridLive_congr`: the days of one week have one grid.
* `Schedule.IsAnswer.isJudgedBy`: by which hours a cell is judged.
* `weeks_tile_calendar`: weeks, their days and the columns of their grids.
-/

namespace SalonBooking

/-- A cell as it is judged: nothing is offered while the salon is not open for its slot, and
otherwise what the live calendar says of it, if there is one. -/
structure Cell.IsJudgedBy {σ : Type} (cell : Cell) (isOpen : Prop)
    (calendar : Option (LiveCalendar σ)) : Prop where
  shut : ¬ isOpen → cell.offered = false
  unasked : isOpen → calendar = none → cell.offered = true
  asked : isOpen → ∀ live, calendar = some live →
    ∃ before after, live cell.date cell.time before = .ok (cell.offered, after)

namespace Schedule

variable {σ : Type} {schedule : Schedule} {zone : TimeZone} {start : Date} {now : Moment}
  {current : LocalTime} {calendar : Option (LiveCalendar σ)} {cell : Cell}

/-- The days of one week have one grid. -/
theorem weekGridLive_congr {start' : Date} (h : start.weekStart = start'.weekStart) :
    schedule.weekGridLive zone start now calendar =
      schedule.weekGridLive zone start' now calendar := by
  rw [weekGridLive, weekGridLive, h]

theorem IsAnswer.isJudgedBy {day : Date} {time : String}
    (h : schedule.IsAnswer zone current calendar time day cell) :
    cell.IsJudgedBy
      (schedule.HoursOffer (schedule.hours.get cell.date.weekday) cell.date cell.time current)
      calendar := by
  obtain ⟨rfl, rfl⟩ := And.intro h.date_eq h.time_eq
  obtain ⟨before, after, hoffered⟩ := h.offered
  rw [isOfferedLive_ofLocal h.isWithinCalendar] at hoffered
  rw [← verdict_eq_true_iff]
  cases hverdict : schedule.verdict cell.date cell.time current with
  | false =>
    rw [hverdict] at hoffered
    exact ⟨fun _ => (Prod.mk.inj (Except.ok.inj hoffered)).1.symm, nofun, nofun⟩
  | true =>
    rw [hverdict] at hoffered
    refine ⟨fun h => absurd rfl h, ?_, ?_⟩
    · rintro - rfl
      exact (Prod.mk.inj (Except.ok.inj hoffered)).1.symm
    · rintro - live rfl
      exact ⟨before, after, hoffered⟩

/-- A row has a cell for each day of the week, from Monday to Sunday, judged by the hours of that
day of the week. -/
theorem column_of_mem_weekGridLive {s : σ} {found : List (List Cell) × σ}
    (h : schedule.weekGridLive zone start now calendar s = .ok found) :
    ∃ current, now.localTime zone = .ok current ∧ ∀ row ∈ found.1, row.length = 7 ∧
      ∀ j cell weekday, row[j]? = some cell → Weekday.fromMonday[j]? = some weekday →
        cell.date.ordinal = start.weekStart.ordinal + j ∧ cell.date.weekday = weekday ∧
          cell.IsJudgedBy
            (schedule.HoursOffer (schedule.hours.get weekday) cell.date cell.time current)
            calendar := by
  obtain ⟨week, current, hweek, hcurrent, hrows⟩ := answers_of_weekGridLive h
  refine ⟨current, hcurrent, fun row hrow => ?_⟩
  obtain ⟨time, -, hcells⟩ := exists_of_mem_right hrows hrow
  obtain ⟨hlength, hcells⟩ := List.forall₂_iff_get.mp hcells
  refine ⟨hlength.symm.trans (Date.length_sevenDays hweek), ?_⟩
  intro j cell weekday hcell hweekday
  obtain ⟨hj, rfl⟩ := List.getElem?_eq_some_iff.mp hcell
  have hanswer := hcells j (hlength ▸ hj) hj
  have hday : week[j]? = some row[j].date :=
    List.getElem?_eq_some_iff.mpr ⟨hlength ▸ hj, hanswer.date_eq.symm⟩
  obtain ⟨-, hordinal⟩ := (Date.getElem?_sevenDays hweek).mp hday
  obtain rfl := Option.some.inj (hweekday.symm.trans (Date.weekday_of_getElem?_week hweek hday))
  exact ⟨hordinal, rfl, hanswer.isJudgedBy⟩

end Schedule

/-- Weeks tile the calendar, and the columns of a grid use the hours of their own day.  The week of
a day starts on a Monday at most six days before it and holds the day once, at the place of its day
of the week; two weeks are the same or have no day in common.  The days of one week have one grid,
and its columns are the days from Monday to Sunday, each judged by the hours of that day of the
week. -/
theorem weeks_tile_calendar :
    (∀ d : Date, d.weekStart.ordinal ≤ d.ordinal ∧ d.ordinal ≤ d.weekStart.ordinal + 6 ∧
      d.weekStart.weekday.index = 1 ∧ d.weekStart.weekStart = d.weekStart) ∧
    (∀ d : Date, d.weekStart.ordinal + 6 ≤ lastOrdinal →
      ∃ week, d.weekStart.sevenDays = .ok week ∧
        ∀ i : Nat, week[i]? = some d ↔ i = (d.weekday.index + 6) % 7) ∧
    (∀ (d e : Date) (week week' : List Date), d.weekStart.sevenDays = .ok week →
      e.weekStart.sevenDays = .ok week' → week = week' ∨ week.Disjoint week') ∧
    (∀ (schedule : Schedule) (zone : TimeZone) (start start' : Date) (week : List Date)
      (now : Moment) (σ : Type) (calendar : Option (LiveCalendar σ)),
      start.weekStart.sevenDays = .ok week → start' ∈ week →
      schedule.weekGridLive zone start' now calendar =
        schedule.weekGridLive zone start now calendar) ∧
    ∀ (schedule : Schedule) (zone : TimeZone) (start : Date) (now : Moment) (σ : Type)
      (calendar : Option (LiveCalendar σ)) (s s' : σ) (rows : List (List Cell)),
      schedule.weekGridLive zone start now calendar s = .ok (rows, s') →
      ∃ current, now.localTime zone = .ok current ∧ ∀ row ∈ rows, row.length = 7 ∧
        ∀ (j : Nat) (cell : Cell) (weekday : Weekday), row[j]? = some cell →
          Weekday.fromMonday[j]? = some weekday →
          cell.date.ordinal = start.weekStart.ordinal + j ∧ cell.date.weekday = weekday ∧
            cell.IsJudgedBy
              (schedule.HoursOffer (schedule.hours.get weekday) cell.date cell.time current)
              calendar := by
  refine ⟨?monday, ?place, ?apart, ?grid, ?column⟩
  case monday =>
    intro d
    obtain ⟨hlow, hhigh⟩ := (Date.weekStart_eq_iff d.ordinal_weekStart_mod).mp rfl
    refine ⟨hlow, Nat.le_of_lt_succ hhigh, ?_, d.weekStart_weekStart⟩
    rw [d.weekStart_weekday]
    rfl
  case place =>
    intro d hrange
    obtain ⟨first, others, hweek⟩ := Date.exists_sevenDays hrange
    exact ⟨_, hweek, fun i => Date.getElem?_week_iff hweek rfl⟩
  case apart =>
    intro d e week week' hweek hweek'
    exact Date.week_eq_or_disjoint hweek hweek'
  case grid =>
    intro schedule zone start start' week now σ calendar hweek hstart'
    exact Schedule.weekGridLive_congr ((Date.mem_week_iff hweek).mp hstart')
  case column =>
    intro schedule zone start now σ calendar s s' rows h
    exact Schedule.column_of_mem_weekGridLive h

/-- The leap day of the year 2000, a Tuesday. -/
def leapDay : Date := ⟨730179, by decide⟩

/-- The Sunday after it, 5 March 2000. -/
def sundayAfter : Date := ⟨730184, by decide⟩

/-- The Monday after that. -/
def mondayAfter : Date := ⟨730185, by decide⟩

/-- The leap day is the second day of its week, which begins in February and ends in March; the next
week has no day of it.  The Sunday has the grid of the leap day, and that of the uneven week has
nothing on offer in the column of the Sunday, which is closed. -/
theorem weeks_tile_calendar_leap_day :
    leapDay.civil = (2000, 2, 29) ∧
      (∃ week next, leapDay.weekStart.sevenDays = .ok week ∧
        mondayAfter.weekStart.sevenDays = .ok next ∧
        week.map (·.civil) = [(2000, 2, 28), (2000, 2, 29), (2000, 3, 1), (2000, 3, 2),
          (2000, 3, 3), (2000, 3, 4), (2000, 3, 5)] ∧
        (∀ i : Nat, week[i]? = some leapDay ↔ i = 1) ∧ week.Disjoint next) ∧
      ∃ rows, Schedule.unevenWeek.weekGridLive .tokyo sundayAfter (.ofLocal (.midnight leapDay))
          none () = .ok (rows, ()) ∧ rows.length = 22 ∧
        ∀ row ∈ rows, ∀ cell, row[6]? = some cell →
          cell.date.weekday = .sunday ∧ cell.offered = false := by
  obtain ⟨-, hplace, hapart, hsame, hcolumn⟩ := weeks_tile_calendar
  have hdays : leapDay.weekStart.sevenDays.map (·.map (·.civil)) =
      .ok [(2000, 2, 28), (2000, 2, 29), (2000, 3, 1), (2000, 3, 2), (2000, 3, 3), (2000, 3, 4),
        (2000, 3, 5)] := by
    decide +kernel
  have hlength : (Schedule.unevenWeek.weekGridLive .tokyo leapDay (.ofLocal (.midnight leapDay))
      none ()).map (fun found => found.1.length) = .ok 22 := by
    decide +kernel
  obtain ⟨week, hweek, hleap⟩ := hplace leapDay (by decide)
  obtain ⟨next, hnext, hmonday⟩ := hplace mondayAfter (by decide)
  refine ⟨by decide +kernel, ⟨week, next, hweek, hnext, ?days, hleap, ?disjoint⟩, ?grid⟩
  case days =>
    rw [hweek] at hdays
    exact Except.ok.inj hdays
  case disjoint =>
    refine (hapart _ _ _ _ hweek hnext).resolve_left ?_
    rintro rfl
    have hfirst := (hmonday 0).mpr (by decide)
    have hordinal := ((Date.getElem?_sevenDays hweek).mp hfirst).2
    exact absurd hordinal (by decide)
  case grid =>
    have hsunday : sundayAfter ∈ week := (Date.mem_week_iff hweek).mpr (by decide)
    rw [hsame _ _ leapDay sundayAfter week _ _ _ hweek hsunday]
    obtain ⟨⟨rows, _⟩, hgrid, hrows⟩ := map_eq_ok_iff.mp hlength
    obtain ⟨current, -, hcolumns⟩ := hcolumn _ _ _ _ _ _ _ _ _ hgrid
    refine ⟨rows, hgrid, hrows, fun row hrow cell hcell => ?_⟩
    obtain ⟨-, hsunday, hjudged⟩ := (hcolumns row hrow).2 6 cell .sunday hcell rfl
    refine ⟨hsunday, hjudged.shut ?_⟩
    rintro ⟨minutes, -, ⟨hclosed, -⟩, -⟩
    cases hclosed

end SalonBooking
