import SalonBooking.Proofs.Availability.Slot
import SalonBooking.Proofs.Calendar.Moment
import SalonBooking.Service.Answer

/-!
# The present as an instant

A form asks for the time on the store's clock more than once: the service does,
the grid does, and so does each of its cells.  After the first time there is no
offset left to take into account, so the clock is read as it stands; and two
moments of one instant are read alike, whatever their offsets.

* `OfferAlike.of_localTime_eq`: what is offered depends on the clock alone.
* `only_instant_matters`: the clock is shifted once, and by the instant alone.
-/

namespace SalonBooking

/-- The request, made at a moment. -/
def AvailabilityRequest.asOf (request : AvailabilityRequest) (now : Moment) :
    AvailabilityRequest :=
  { request with now := some now }

/-- Whatever a form offers at one moment it offers at the other, and whatever a live calendar is
asked at the one it is asked at the other. -/
structure OfferAlike (zone : TimeZone) (now now' : Moment) : Prop where
  slot : ∀ {σ : Type} (schedule : Schedule) (day : Date) (time : String)
    (calendar : Option (LiveCalendar σ)),
    schedule.isOfferedLive zone day time now calendar =
      schedule.isOfferedLive zone day time now' calendar
  grid : ∀ {σ : Type} (schedule : Schedule) (start : Date) (calendar : Option (LiveCalendar σ)),
    schedule.weekGridLive zone start now calendar = schedule.weekGridLive zone start now' calendar
  dates : ∀ schedule : Schedule,
    ((now.localTime zone).bind fun current => schedule.eligibleDates current.date) =
      (now'.localTime zone).bind fun current => schedule.eligibleDates current.date
  service : ∀ (limits : Limits) (request : AvailabilityRequest) (clock : Moment),
    (request.asOf now).answer limits zone clock = (request.asOf now').answer limits zone clock

theorem OfferAlike.of_localTime_eq {zone : TimeZone} {now now' : Moment}
    (h : now.localTime zone = now'.localTime zone) : OfferAlike zone now now' where
  slot schedule day time calendar := by
    funext s
    rw [Schedule.isOfferedLive_eq, Schedule.isOfferedLive_eq, h]
  grid schedule start calendar := by
    funext s
    rw [Schedule.weekGridLive_eq, Schedule.weekGridLive_eq, h]
  dates schedule := by
    rw [h]
  service limits request clock := by
    have hoffers : ∀ config, (request.asOf now).offers zone clock config =
        (request.asOf now').offers zone clock config := by
      intro config
      simp only [AvailabilityRequest.offers, AvailabilityRequest.asOf, Option.getD_some, h]
    simp only [AvailabilityRequest.answer, hoffers]
    rfl

/-- Of the present only its instant matters.  Once the store's clock is read it is not shifted
again, at whatever level it is read once more.  Two moments of one instant are the same time to the
store, and nothing that is offered tells them apart.  A clock that never changes shows the instant,
shifted by its offset, as long as both lie within the calendar. -/
theorem only_instant_matters (zone : TimeZone) :
    (∀ (now : Moment) (current : LocalTime), now.localTime zone = .ok current →
      (Moment.ofLocal current).localTime zone = .ok current ∧
        OfferAlike zone now (.ofLocal current)) ∧
    (∀ (now now' : Moment) (instant : Int), now.instant? = some instant →
      now'.instant? = some instant →
      now.localTime zone = now'.localTime zone ∧ OfferAlike zone now now') ∧
    ∀ (east : Int) (now : Moment) (instant : Int) (current : LocalTime), zone = .fixed east →
      now.instant? = some instant →
      (now.localTime zone = .ok current ↔ LocalTime.IsInCalendar instant ∧
        (current.total : Int) = instant + east * microsPerSecond) := by
  refine ⟨?once, ?alike, ?shifted⟩
  case once =>
    intro now current hnow
    have hlocal := Moment.localTime_ofLocal current zone
    exact ⟨hlocal, OfferAlike.of_localTime_eq (hnow.trans hlocal.symm)⟩
  case alike =>
    intro now now' instant h h'
    have hclock : now.localTime zone = now'.localTime zone := Moment.localTime_eq_of_instant? h h'
    exact ⟨hclock, OfferAlike.of_localTime_eq hclock⟩
  case shifted =>
    rintro east now instant current rfl h
    exact Moment.localTime_fixed_eq_ok_iff h

/-- Half past ten in the evening of 31 December 2024 and a microsecond, five hours behind universal
time. -/
def oldYearsEvening : Moment :=
  ⟨⟨⟨739251, by decide⟩, 1350 * microsPerMinute + 1, by decide⟩, some (-300 * microsPerMinute)⟩

/-- The same instant in universal time, half past three in the morning of the next year. -/
def newYearsNight : Moment :=
  ⟨⟨⟨739252, by decide⟩, 210 * microsPerMinute + 1, by decide⟩, some 0⟩

/-- A quarter past nine of 1 January 2025 and a microsecond, on the clock of a store. -/
def newYearsMorning : LocalTime :=
  ⟨⟨739252, by decide⟩, 555 * microsPerMinute + 1, by decide⟩

/-- Five hours and three quarters ahead of universal time both are the morning of the new year. -/
theorem only_instant_matters_new_year :
    oldYearsEvening.instant? = newYearsNight.instant? ∧
      oldYearsEvening.localTime (.fixed 20700) = .ok newYearsMorning ∧
      OfferAlike (.fixed 20700) oldYearsEvening (.ofLocal newYearsMorning) ∧
      OfferAlike (.fixed 20700) oldYearsEvening newYearsNight := by
  have hinstant : oldYearsEvening.instant? = some 63871385400000001 := by decide +kernel
  have hsame : newYearsNight.instant? = some 63871385400000001 := by decide +kernel
  obtain ⟨honce, halike, hshifted⟩ := only_instant_matters (.fixed 20700)
  have hmorning : oldYearsEvening.localTime (.fixed 20700) = .ok newYearsMorning :=
    (hshifted 20700 _ _ newYearsMorning rfl hinstant).mpr (by decide +kernel)
  exact ⟨hinstant.trans hsame.symm, hmorning, (honce _ _ hmorning).2,
    (halike _ _ _ hinstant hsame).2⟩

end SalonBooking
