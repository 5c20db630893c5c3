import SalonBooking.Availability.Grid
import SalonBooking.Proofs.Calendar.Date
import SalonBooking.Proofs.Calendar.Moment
import SalonBooking.Proofs.Data.Results

/-!
# What it takes to offer a slot

* `Live.bind_eq_ok_iff`, `Live.exists_mapM`, `Live.forall₂_of_mapM`: inquiries made one
  after another.
* `DayHours.openMinute?_eq_some_iff`: the minutes within the hours of a day.
* `Schedule.windowOffers_eq`: the window rules answer up to the end of the calendar.
* `Schedule.isOfferedLive_eq`: a slot is offered by the window rules, then by the live
  calendar.
* `Schedule.weekGridLive_eq`, `Schedule.answers_of_weekGridLive`: the grid asks about each
  of its cells.
-/

namespace SalonBooking

/-! ## Inquiries -/

namespace Live

variable {σ α β : Type} {f : α → Live σ β}

theorem bind_apply (x : Live σ α) (f : α → Live σ β) (s : σ) :
    (x >>= f) s = (x s).bind fun found => f found.1 found.2 := rfl

theorem bind_eq_ok_iff {x : Live σ α} {s : σ} {found : β × σ} :
    (x >>= f) s = .ok found ↔ ∃ first, x s = .ok first ∧ f first.1 first.2 = .ok found :=
  SalonBooking.bind_eq_ok_iff

theorem liftM_apply (x : Except CalendarError α) (s : σ) :
    (liftM x : Live σ α) s = x.map fun a => (a, s) := by
  cases x <;> rfl

/-- The first inquiry that fails is the end of all. -/
theorem mapM_cons_of_error {a : α} {rest : List α} {s : σ} {e : CalendarError}
    (h : f a s = .error e) : (a :: rest).mapM f s = .error e := by
  rw [List.mapM_cons, bind_apply, h]
  rfl

theorem exists_mapM {as : List α} (h : ∀ a ∈ as, ∀ s, ∃ found, f a s = .ok found) (s : σ) :
    ∃ found, as.mapM f s = .ok found := by
  induction as generalizing s with
  | nil => exact ⟨([], s), rfl⟩
  | cons a rest ih =>
    obtain ⟨first, hfirst⟩ := h a List.mem_cons_self s
    obtain ⟨others, hothers⟩ :=
      ih (fun other hother => h other (List.mem_cons_of_mem a hother)) first.2
    refine ⟨(first.1 :: others.1, others.2), ?_⟩
    rw [List.mapM_cons]
    exact bind_eq_ok_iff.mpr ⟨first, hfirst, bind_eq_ok_iff.mpr ⟨others, hothers, rfl⟩⟩

/-- Inquiries made one after another are each made in some state. -/
theorem forall₂_of_mapM {as : List α} {s : σ} {found : List β × σ}
    (h : as.mapM f s = .ok found) :
    List.Forall₂ (fun a b => ∃ before after, f a before = .ok (b, after)) as found.1 := by
  induction as generalizing s found with
  | nil =>
    obtain rfl := Except.ok.inj h
    exact .nil
  | cons a rest ih =>
    rw [List.mapM_cons] at h
    obtain ⟨first, hfirst, h⟩ := bind_eq_ok_iff.mp h
    obtain ⟨others, hothers, h⟩ := bind_eq_ok_iff.mp h
    obtain rfl := Except.ok.inj h
    exact .cons ⟨s, first.2, hfirst⟩ (ih hothers)

end Live

/-! ## Hours -/

namespace DayHours

variable {hours : DayHours} {opens closes minutes : Nat} {time : String}

theorem window?_eq_some_iff :
    hours.window? = some (opens, closes) ↔ hours.closed = false ∧
      TimeOfDay.parse? hours.opens = some opens ∧ TimeOfDay.parse? hours.closes = some closes := by
  rw [window?]
  cases hours.closed <;> cases TimeOfDay.parse? hours.opens <;>
    cases TimeOfDay.parse? hours.closes <;> simp

/-- The minutes within the hours of a day are those from opening on and before closing. -/
theorem openMinute?_eq_some_iff :
    hours.openMinute? time = some minutes ↔ ∃ opens closes,
      hours.window? = some (opens, closes) ∧ TimeOfDay.parse? time = some minutes ∧
        opens ≤ minutes ∧ minutes < closes := by
  rw [openMinute?]
  cases hours.window? with
  | none => simp
  | some window =>
    obtain ⟨opens, closes⟩ := window
    cases TimeOfDay.parse? time with
    | none => simp
    | some m =>
      by_cases hm : opens ≤ m ∧ m < closes
      · simp only [if_pos hm, Option.some.injEq]
        constructor
        · rintro rfl
          exact ⟨opens, closes, rfl, rfl, hm⟩
        · rintro ⟨_, _, _, rfl, _⟩
          rfl
      · simp only [if_neg hm, Option.some.injEq, reduceCtorEq, false_iff]
        rintro ⟨_, _, hwindow, rfl, hrange⟩
        cases hwindow
        exact hm hrange

end DayHours

/-! ## Slots -/

namespace Schedule

variable {schedule : Schedule} {zone : TimeZone} {day : Date} {time : String} {now : Moment}
  {current : LocalTime} {check : Option LiveCheck} {asked : List (Date × String)}

/-- Whether the last bookable day lies within the calendar. -/
def IsWithinCalendar (schedule : Schedule) (today : Date) : Prop :=
  today.ordinal + schedule.advanceDays ≤ lastOrdinal

instance (schedule : Schedule) (today : Date) : Decidable (schedule.IsWithinCalendar today) :=
  inferInstanceAs (Decidable (_ ≤ _))

/-- What the window rules say about a slot as long as the last bookable day lies within the
calendar: the slot is not after that day, the salon is open then, and it has not begun. -/
def verdict (schedule : Schedule) (day : Date) (time : String) (current : LocalTime) : Bool :=
  decide (day.ordinal ≤ current.date.ordinal + schedule.advanceDays) &&
    schedule.isOpenAt day time current

/-- The window rules answer unless the last bookable day lies beyond the calendar. -/
theorem windowOffers_eq :
    schedule.windowOffers day time current =
      if schedule.IsWithinCalendar current.date then .ok (schedule.verdict day time current)
      else .error .outOfRange := by
  rw [windowOffers]
  by_cases hrange : schedule.IsWithinCalendar current.date
  · obtain ⟨last, hlast, hordinal⟩ := Date.addDays_eq_ok hrange
    rw [if_pos hrange, hlast, verdict, ← hordinal]
    rfl
  · rw [if_neg hrange, Date.addDays_eq_error hrange]
    rfl

/-- The live calendar is asked about what the window rules offer, and about nothing else. -/
theorem isOfferedLive_eq {σ : Type} {calendar : Option (LiveCalendar σ)} {s : σ} :
    schedule.isOfferedLive zone day time now calendar s =
      (now.localTime zone).bind fun current =>
        (schedule.windowOffers day time current).bind fun offered =>
          if offered then
            match calendar with
            | some calendar => calendar day time s
            | none => .ok (true, s)
          else .ok (false, s) := by
  unfold isOfferedLive
  simp only [Live.bind_apply, Live.liftM_apply]
  cases now.localTime zone with
  | error e => rfl
  | ok current =>
    simp only [Except.map, Except.bind]
    cases schedule.windowOffers day time current with
    | error e => rfl
    | ok offered => cases offered <;> cases calendar <;> rfl

theorem isOfferedLive_eq_error {σ : Type} (hnow : now.localTime zone = .ok current)
    (h : ¬ schedule.IsWithinCalendar current.date) (day : Date) (time : String)
    (calendar : Option (LiveCalendar σ)) (s : σ) :
    schedule.isOfferedLive zone day time now calendar s = .error .outOfRange := by
  rw [isOfferedLive_eq, hnow]
  simp only [Except.bind, windowOffers_eq]
  rw [if_neg h]

/-- On the store's own clock the verdict of the window rules decides whether to ask. -/
theorem isOfferedLive_ofLocal {σ : Type} (h : schedule.IsWithinCalendar current.date)
    (calendar : Option (LiveCalendar σ)) (s : σ) :
    schedule.isOfferedLive zone day time (.ofLocal current) calendar s =
      if schedule.verdict day time current then
        match calendar with
        | some calendar => calendar day time s
        | none => .ok (true, s)
      else .ok (false, s) := by
  rw [isOfferedLive_eq, Moment.localTime_ofLocal]
  simp only [Except.bind, windowOffers_eq, if_pos h]

/-- Without a live calendar that verdict stands. -/
theorem isOfferedLive_none {σ : Type} (h : schedule.IsWithinCalendar current.date) (s : σ) :
    schedule.isOfferedLive zone day time (.ofLocal current) none s =
      .ok (schedule.verdict day time current, s) := by
  rw [isOfferedLive_ofLocal h]
  cases schedule.verdict day time current <;> rfl

theorem isOffered_eq :
    schedule.isOffered zone day time now check asked =
      (now.localTime zone).bind fun current =>
        (schedule.windowOffers day time current).bind fun offered =>
          if offered then
            match check with
            | some check => .ok (check day time, asked ++ [(day, time)])
            | none => .ok (true, asked)
          else .ok (false, asked) := by
  rw [isOffered, isOfferedLive_eq]
  cases check <;> rfl

/-- Without a minute within the hours of its day no slot is offered, whatever the live check. -/
theorem eq_false_of_openMinute?_eq_none {found : Bool × List (Date × String)}
    (hclosed : (schedule.hours.get day.weekday).openMinute? time = none)
    (h : schedule.isOffered zone day time now check asked = .ok found) : found.1 = false := by
  rw [isOffered_eq] at h
  obtain ⟨current, -, h⟩ := SalonBooking.bind_eq_ok_iff.mp h
  obtain ⟨offered, hoffered, h⟩ := SalonBooking.bind_eq_ok_iff.mp h
  rw [windowOffers_eq, verdict, isOpenAt, hclosed, Bool.and_false] at hoffered
  split at hoffered
  · obtain rfl := Except.ok.inj hoffered
    obtain rfl := Except.ok.inj h
    rfl
  · cases hoffered

/-! ## The grid -/

section Grid

variable {σ : Type} {calendar : Option (LiveCalendar σ)} {start : Date}

/-- The cell of a day in the row of a time. -/
def cellAt (schedule : Schedule) (zone : TimeZone) (current : LocalTime)
    (calendar : Option (LiveCalendar σ)) (time : String) (day : Date) : Live σ Cell := do
  let offered ← schedule.isOfferedLive zone day time (.ofLocal current) calendar
  return ⟨day, time, offered⟩

/-- The grid has a row for each of its times and in it a cell for each day of the week. -/
theorem weekGridLive_eq {s : σ} :
    schedule.weekGridLive zone start now calendar s =
      start.weekStart.sevenDays.bind fun days => (now.localTime zone).bind fun current =>
        (schedule.rowTimes.mapM fun time =>
          days.mapM (schedule.cellAt zone current calendar time)) s := by
  unfold weekGridLive
  simp only [Live.bind_apply, Live.liftM_apply]
  cases start.weekStart.sevenDays with
  | error e => rfl
  | ok days => cases now.localTime zone <;> rfl

/-- A cell that says of the slot of a day and a time whether it is offered. -/
structure IsAnswer (schedule : Schedule) (zone : TimeZone) (current : LocalTime)
    (calendar : Option (LiveCalendar σ)) (time : String) (day : Date) (cell : Cell) : Prop where
  date_eq : cell.date = day
  time_eq : cell.time = time
  offered : ∃ before after, schedule.isOfferedLive zone day time (.ofLocal current) calendar
    before = .ok (cell.offered, after)

/-- A slot that is judged at all is judged before the end of the calendar. -/
theorem IsAnswer.isWithinCalendar {cell : Cell}
    (h : schedule.IsAnswer zone current calendar time day cell) :
    schedule.IsWithinCalendar current.date := by
  by_contra hbeyond
  obtain ⟨before, after, hoffered⟩ := h.offered
  rw [isOfferedLive_eq_error (Moment.localTime_ofLocal current zone) hbeyond] at hoffered
  cases hoffered

/-- Each cell of the grid answers about the slot of its row and its day. -/
theorem answers_of_weekGridLive {s : σ} {found : List (List Cell) × σ}
    (h : schedule.weekGridLive zone start now calendar s = .ok found) :
    ∃ days current, start.weekStart.sevenDays = .ok days ∧ now.localTime zone = .ok current ∧
      List.Forall₂
        (fun time row => List.Forall₂ (schedule.IsAnswer zone current calendar time) days row)
        schedule.rowTimes found.1 := by
  rw [weekGridLive_eq] at h
  obtain ⟨days, hdays, h⟩ := SalonBooking.bind_eq_ok_iff.mp h
  obtain ⟨current, hcurrent, h⟩ := SalonBooking.bind_eq_ok_iff.mp h
  refine ⟨days, current, hdays, hcurrent, (Live.forall₂_of_mapM h).imp ?_⟩
  rintro time row ⟨before, after, hrow⟩
  refine (Live.forall₂_of_mapM hrow).imp ?_
  rintro day cell ⟨before, after, hcell⟩
  obtain ⟨⟨offered, after'⟩, hanswer, hcell⟩ := Live.bind_eq_ok_iff.mp hcell
  obtain ⟨rfl, -⟩ := Prod.mk.inj (Except.ok.inj hcell)
  exact ⟨rfl, rfl, before, after', hanswer⟩

end Grid

theorem weekGrid_eq {start : Date} :
    schedule.weekGrid zone start now check asked =
      start.weekStart.sevenDays.bind fun days => (now.localTime zone).bind fun current =>
        (schedule.rowTimes.mapM fun time =>
          days.mapM (schedule.cellAt zone current (check.map LiveCheck.ask) time)) asked := by
  rw [weekGrid, weekGridLive_eq]

/-- A cell of the grid is the answer about its slot, and its time is that of a row. -/
theorem isOffered_of_mem_weekGrid {start : Date}
    {found : List (List Cell) × List (Date × String)}
    (h : schedule.weekGrid zone start now check asked = .ok found) :
    ∀ row ∈ found.1, ∀ cell ∈ row, cell.time ∈ schedule.rowTimes ∧
      ∃ current before after, schedule.isOffered zone cell.date cell.time (.ofLocal current) check
        before = .ok (cell.offered, after) := by
  obtain ⟨days, current, -, -, h⟩ := answers_of_weekGridLive h
  intro row hrow cell hcell
  obtain ⟨time, htime, hrow⟩ := exists_of_mem_right h hrow
  obtain ⟨day, -, hanswer⟩ := exists_of_mem_right hrow hcell
  obtain ⟨before, after, hoffered⟩ := hanswer.offered
  obtain ⟨rfl, rfl⟩ := And.intro hanswer.date_eq hanswer.time_eq
  exact ⟨htime, current, before, after, hoffered⟩

end Schedule

end SalonBooking
