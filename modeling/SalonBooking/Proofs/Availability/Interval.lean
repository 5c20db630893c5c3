import SalonBooking.Proofs.Availability.Rows

/-!
# From when until when a slot is on offer

The last bookable day moves on with the present, a day at a time, and so does the
end of what is past, minute by minute.  For one slot this makes an interval: it
is on offer from a midnight on until it begins, if the salon is open then.

* `Schedule.verdict_eq_true_iff`: what it takes to be on offer.
* `Schedule.slot_opens_once`: within it the slot is on offer and outside it is not.
-/

namespace SalonBooking

/-- A minute from opening on and before closing, of a day that is not closed and whose times can be
read. -/
def DayHours.Includes (hours : DayHours) (minutes : Nat) : Prop :=
  hours.closed = false ∧ ∃ opens closes, TimeOfDay.parse? hours.opens = some opens ∧
    TimeOfDay.parse? hours.closes = some closes ∧ opens ≤ minutes ∧ minutes < closes

theorem DayHours.openMinute?_eq_some_iff_includes {hours : DayHours} {time : String}
    {minutes : Nat} :
    hours.openMinute? time = some minutes ↔
      TimeOfDay.parse? time = some minutes ∧ hours.Includes minutes := by
  simp only [openMinute?_eq_some_iff, window?_eq_some_iff, Includes]
  constructor
  · rintro ⟨opens, closes, ⟨hclosed, hopens, hcloses⟩, htime, hlow, hhigh⟩
    exact ⟨htime, hclosed, opens, closes, hopens, hcloses, hlow, hhigh⟩
  · rintro ⟨htime, hclosed, opens, closes, hopens, hcloses, hlow, hhigh⟩
    exact ⟨opens, closes, ⟨hclosed, hopens, hcloses⟩, htime, hlow, hhigh⟩

/-- The microseconds, counted as for a time, at which the slot of a minute begins. -/
def slotStart (day : Date) (minutes : Nat) : Nat :=
  (LocalTime.midnight day).total + minutes * microsPerMinute

theorem isAfter_iff {day : Date} {minutes : Nat} {now : LocalTime} :
    isAfter day minutes now = true ↔ now.total < slotStart day minutes := by
  rw [isAfter, decide_eq_true_iff, slotStart, LocalTime.total_midnight]

namespace Schedule

variable {schedule : Schedule} {day : Date} {time : String} {minutes : Nat} {now later : LocalTime}

/-- Bookings for a day open at the midnight that lies as many days before it as can be booked
ahead; for the first days of the calendar they have always been open. -/
def HasOpened (schedule : Schedule) (day : Date) (now : LocalTime) : Prop :=
  ∀ first, day.addDays (-(schedule.advanceDays : Int)) = .ok first →
    (LocalTime.midnight first).total ≤ now.total

theorem hasOpened_iff :
    schedule.HasOpened day now ↔ day.ordinal ≤ now.date.ordinal + schedule.advanceDays := by
  have hrange := day.inRange
  simp only [HasOpened, Date.addDays_eq_ok_iff, LocalTime.midnight_le_iff]
  constructor
  · intro h
    by_cases hearly : day.ordinal ≤ schedule.advanceDays
    · omega
    · have hfirst := h ⟨day.ordinal - schedule.advanceDays, by omega⟩ (by simp only; omega)
      simp only at hfirst
      omega
  · intro h first hfirst
    omega

/-- Some hours offer a slot if its minute lies within them, bookings for its day have opened and it
has not begun. -/
def HoursOffer (schedule : Schedule) (hours : DayHours) (day : Date) (time : String)
    (now : LocalTime) : Prop :=
  ∃ minutes, TimeOfDay.parse? time = some minutes ∧ hours.Includes minutes ∧
    schedule.HasOpened day now ∧ now.total < slotStart day minutes

/-- The window rules offer a slot by the hours of its day. -/
theorem verdict_eq_true_iff :
    schedule.verdict day time now = true ↔
      schedule.HoursOffer (schedule.hours.get day.weekday) day time now := by
  rw [verdict, HoursOffer, isOpenAt, Bool.and_eq_true, decide_eq_true_iff, hasOpened_iff]
  cases hopen : (schedule.hours.get day.weekday).openMinute? time with
  | none =>
    simp only [Bool.false_eq_true, and_false, false_iff]
    rintro ⟨minutes, htime, hincludes, -⟩
    rw [DayHours.openMinute?_eq_some_iff_includes.mpr ⟨htime, hincludes⟩] at hopen
    cases hopen
  | some minutes =>
    obtain ⟨htime, hincludes⟩ := DayHours.openMinute?_eq_some_iff_includes.mp hopen
    simp only [isAfter_iff, htime, Option.some.injEq]
    constructor
    · rintro ⟨hopened, hbefore⟩
      exact ⟨minutes, rfl, hincludes, hopened, hbefore⟩
    · rintro ⟨_, rfl, -, hopened, hbefore⟩
      exact ⟨hopened, hbefore⟩

/-- Bookings that have opened stay open. -/
theorem HasOpened.mono (h : schedule.HasOpened day now) (hle : now.total ≤ later.total) :
    schedule.HasOpened day later :=
  fun first hfirst => Nat.le_trans (h first hfirst) hle

/-- Of a written time only its minute counts. -/
theorem verdict_congr {time' : String}
    (h : TimeOfDay.parse? time = TimeOfDay.parse? time') :
    schedule.verdict day time now = schedule.verdict day time' now := by
  rw [Bool.eq_iff_iff, verdict_eq_true_iff, verdict_eq_true_iff, HoursOffer, HoursOffer, h]

/-- A slot opens once and closes once.  If it is on offer, it is so at any later time as long as it
has not begun.  A slot within the hours of its day is on offer from the opening of bookings until it
begins.  Of the written time only the minute matters. -/
theorem slot_opens_once (schedule : Schedule) (zone : TimeZone) (day : Date)
    (asked : List (Date × String)) :
    (∀ (time : String) (now later : LocalTime), now.total ≤ later.total →
      schedule.IsWithinCalendar now.date → schedule.IsWithinCalendar later.date →
      schedule.isOffered zone day time (.ofLocal now) none asked = .ok (true, asked) →
      ∃ minutes, TimeOfDay.parse? time = some minutes ∧
        schedule.isOffered zone day time (.ofLocal later) none asked =
          .ok (decide (later.total < slotStart day minutes), asked)) ∧
    (∀ (time : String) (minutes : Nat) (now : LocalTime),
      TimeOfDay.parse? time = some minutes →
      (schedule.hours.get day.weekday).Includes minutes → schedule.IsWithinCalendar now.date →
      ∃ offered,
        schedule.isOffered zone day time (.ofLocal now) none asked = .ok (offered, asked) ∧
        (offered = true ↔ schedule.HasOpened day now ∧ now.total < slotStart day minutes)) ∧
    ∀ (time time' : String) (now : Moment),
      TimeOfDay.parse? time = TimeOfDay.parse? time' →
      schedule.isOffered zone day time now none asked =
        schedule.isOffered zone day time' now none asked := by
  refine ⟨?later, ?interval, ?minute⟩
  case later =>
    intro time now later hle hnow hlater hoffered
    obtain ⟨hverdict, -⟩ := Prod.mk.inj (Except.ok.inj ((isOfferedLive_none hnow asked).symm.trans
      hoffered))
    obtain ⟨minutes, htime, hincludes, hopened, -⟩ := verdict_eq_true_iff.mp hverdict
    refine ⟨minutes, htime, (isOfferedLive_none hlater asked).trans ?_⟩
    have hstart : schedule.verdict day time later = true ↔
        later.total < slotStart day minutes := by
      rw [verdict_eq_true_iff]
      constructor
      · rintro ⟨_, htime', -, -, hbefore⟩
        obtain rfl := Option.some.inj (htime.symm.trans htime')
        exact hbefore
      · intro hbefore
        exact ⟨minutes, htime, hincludes, hopened.mono hle, hbefore⟩
    rw [Bool.eq_iff_iff.mpr (hstart.trans decide_eq_true_iff.symm)]
  case interval =>
    intro time minutes now htime hincludes hnow
    refine ⟨_, isOfferedLive_none hnow asked, ?_⟩
    rw [verdict_eq_true_iff]
    constructor
    · rintro ⟨_, htime', -, hopened, hbefore⟩
      obtain rfl := Option.some.inj (htime.symm.trans htime')
      exact ⟨hopened, hbefore⟩
    · rintro ⟨hopened, hbefore⟩
      exact ⟨minutes, htime, hincludes, hopened, hbefore⟩
  case minute =>
    intro time time' now h
    simp only [isOffered_eq, windowOffers_eq, verdict_congr h]

/-- A Thursday, 6 February 2025. -/
def thursday : Date := ⟨739288, by decide⟩

/-- The day thirty days before it, 7 January. -/
def thirtyBefore : Date := ⟨739258, by decide⟩

/-- In the uneven week bookings for that Thursday open at the midnight thirty days before, not a
microsecond earlier, and the slot of seven o'clock is on offer until then, however it is written. -/
theorem slot_opens_once_thursday :
    let offeredAt (time : String) (now : LocalTime) :=
      unevenWeek.isOffered .tokyo thursday time (.ofLocal now) none []
    offeredAt "19:00" ⟨⟨739257, by decide⟩, microsPerDay - 1, by decide⟩ = .ok (false, []) ∧
      offeredAt "19:00" (.midnight thirtyBefore) = .ok (true, []) ∧
      offeredAt "１９:００" (.midnight thirtyBefore) = .ok (true, []) ∧
      offeredAt "19:00" ⟨thursday, 1140 * microsPerMinute - 1, by decide⟩ = .ok (true, []) ∧
      offeredAt "19:00" ⟨thursday, 1140 * microsPerMinute, by decide⟩ = .ok (false, []) := by
  intro offeredAt
  obtain ⟨hlater, hinterval, hminute⟩ := slot_opens_once unevenWeek .tokyo thursday []
  have htime : TimeOfDay.parse? "19:00" = some 1140 := by decide +kernel
  have hwide : TimeOfDay.parse? "１９:００" = some 1140 := by decide +kernel
  have hincludes : (unevenWeek.hours.get thursday.weekday).Includes 1140 :=
    ⟨rfl, 840, 1205, by decide +kernel⟩
  have hopening : offeredAt "19:00" (.midnight thirtyBefore) = .ok (true, []) := by
    obtain ⟨offered, hoffered, hiff⟩ :=
      hinterval "19:00" 1140 (.midnight thirtyBefore) htime hincludes (by decide)
    rw [hiff.mpr ⟨hasOpened_iff.mpr (by decide), by decide +kernel⟩] at hoffered
    exact hoffered
  have hthursday (now : LocalTime) (hdate : now.date = thursday) (offered : Bool)
      (hbefore : decide (now.total < slotStart thursday 1140) = offered) :
      offeredAt "19:00" now = .ok (offered, []) := by
    obtain ⟨minutes, hminutes, hoffered⟩ := hlater "19:00" (.midnight thirtyBefore) now
      (LocalTime.midnight_le_iff.mpr (by rw [hdate]; decide)) (by decide)
      (by rw [hdate]; decide) hopening
    obtain rfl := Option.some.inj (htime.symm.trans hminutes)
    rw [← hbefore]
    exact hoffered
  refine ⟨?eve, hopening, ?wide, ?last, ?start⟩
  case eve =>
    obtain ⟨offered, hoffered, hiff⟩ := hinterval "19:00" 1140
      ⟨⟨739257, by decide⟩, microsPerDay - 1, by decide⟩ htime hincludes (by decide)
    rw [hasOpened_iff] at hiff
    cases offered with
    | false => exact hoffered
    | true => exact absurd (hiff.mp rfl).1 (by decide)
  case wide =>
    exact (hminute _ _ (.ofLocal (.midnight thirtyBefore)) (hwide.trans htime.symm)).trans hopening
  case last => exact hthursday _ rfl true (by decide +kernel)
  case start => exact hthursday _ rfl false (by decide +kernel)

end Schedule

end SalonBooking
