import SalonBooking.Proofs.Availability.EligibleDates
import SalonBooking.Proofs.Availability.Rows
import SalonBooking.Proofs.Calendar.Moment
import SalonBooking.Proofs.Form.WellFormed
import SalonBooking.Proofs.Json.Writable
import SalonBooking.Proofs.Service.Endpoint
import SalonBooking.Service.Answer

/-!
# The horizon of bookings

How many days ahead can be booked is not limited, and the last bookable day may
lie beyond the calendar.  The week and the range of days that a form offers never
leave it, so the horizon alone decides whether there is an answer.

* `exists_isOffered`, `isOffered_eq_error`: a slot can be judged up to the horizon.
* `exists_weekGrid`, `weekGrid_eq_error`: so can a grid.
* `availability_answers`: what the service answers at a present moment.
-/

namespace SalonBooking

namespace Schedule

variable {schedule : Schedule} {zone : TimeZone} {now : Moment} {current : LocalTime}

/-! ## Slots -/

theorem exists_isOffered (hnow : now.localTime zone = .ok current)
    (h : schedule.IsWithinCalendar current.date) (day : Date) (time : String)
    (check : Option LiveCheck) (asked : List (Date × String)) :
    ∃ found, schedule.isOffered zone day time now check asked = .ok found := by
  have hwindow : ∃ offered, schedule.windowOffers day time current = .ok offered := by
    rw [windowOffers_eq, if_pos h]
    exact ⟨_, rfl⟩
  obtain ⟨offered, hoffered⟩ := hwindow
  rw [isOffered_eq, hnow]
  simp only [Except.bind, hoffered]
  cases offered <;> cases check <;> exact ⟨_, rfl⟩

theorem isOffered_eq_error (hnow : now.localTime zone = .ok current)
    (h : ¬ schedule.IsWithinCalendar current.date) (day : Date) (time : String)
    (check : Option LiveCheck) (asked : List (Date × String)) :
    schedule.isOffered zone day time now check asked = .error .outOfRange :=
  isOfferedLive_eq_error hnow h day time _ asked

/-! ## The grid -/

theorem exists_cellAt (h : schedule.IsWithinCalendar current.date) (check : Option LiveCheck)
    (time : String) (day : Date) (asked : List (Date × String)) :
    ∃ found, schedule.cellAt zone current (check.map LiveCheck.ask) time day asked =
      .ok found := by
  obtain ⟨found, hfound⟩ :=
    exists_isOffered (Moment.localTime_ofLocal current zone) h day time check asked
  exact ⟨_, Live.bind_eq_ok_iff.mpr ⟨found, hfound, rfl⟩⟩

/-- Up to the horizon there is a grid. -/
theorem exists_weekGrid {start : Date} {days : List Date}
    (hdays : start.weekStart.sevenDays = .ok days) (hnow : now.localTime zone = .ok current)
    (h : schedule.IsWithinCalendar current.date) (check : Option LiveCheck)
    (asked : List (Date × String)) :
    ∃ found, schedule.weekGrid zone start now check asked = .ok found := by
  rw [weekGrid_eq, hdays, hnow]
  exact Live.exists_mapM (fun time _ => Live.exists_mapM fun day _ =>
    exists_cellAt h check time day) asked

/-- Beyond the horizon there is none. -/
theorem weekGrid_eq_error {start : Date} {first : Date} {others : List Date}
    (hdays : start.weekStart.sevenDays = .ok (first :: others))
    (hnow : now.localTime zone = .ok current) (h : ¬ schedule.IsWithinCalendar current.date)
    (check : Option LiveCheck) (asked : List (Date × String)) :
    schedule.weekGrid zone start now check asked = .error .outOfRange :=
  weekGridLive_eq_error hdays hnow h _ asked

end Schedule

/-! ## The service -/

theorem isAscii_of_mem_timesBetween {start stop step : Nat} {time : String}
    (h : time ∈ timesBetween start stop step) : Text.IsAscii time.toList := by
  obtain ⟨minutes, -, rfl⟩ := List.mem_map.mp h
  exact TimeOfDay.isAscii_format _

theorem isAscii_of_mem_timesFrom {start stop : String} {step : Nat} {time : String}
    (h : time ∈ timesFrom start stop step) : Text.IsAscii time.toList := by
  rw [timesFrom] at h
  split at h
  · exact isAscii_of_mem_timesBetween h
  · exact absurd h List.not_mem_nil

section Writable

variable {limits : Limits}

theorem isWritable_textsJson {texts : List String} (h : ∀ s ∈ texts, Text.IsAscii s.toList) :
    (textsJson texts).isWritable limits = true := by
  refine Json.isWritable_arr fun v hv => ?_
  obtain ⟨s, hs, rfl⟩ := List.mem_map.mp hv
  exact Text.isWritable_of_isAscii (h s hs)

theorem isWritable_isos (days : List Date) :
    (textsJson (days.map (·.iso))).isWritable limits = true := by
  refine isWritable_textsJson fun s hs => ?_
  obtain ⟨day, -, rfl⟩ := List.mem_map.mp hs
  exact day.isAscii_iso

theorem Cell.isWritable_toJson {cell : Cell} (h : Text.IsAscii cell.time.toList) :
    cell.toJson.isWritable limits = true := by
  refine Json.isWritable_obj_cons (by decide) ?_ (Json.isWritable_obj_cons (by decide) ?_
    (Json.isWritable_obj_cons (by decide) rfl Json.isWritable_obj_nil))
  · exact Text.isWritable_of_isAscii cell.date.isAscii_iso
  · exact Text.isWritable_of_isAscii h

theorem BookingMode.isWritable_name (mode : BookingMode) : Text.isWritable mode.name = true := by
  cases mode <;> decide

theorem isWritable_modeJson (config : FormConfig) {rest : List (String × Json)}
    (hrest : (Json.obj rest).isWritable limits = true) :
    (Json.obj (modeJson config :: rest)).isWritable limits = true :=
  Json.isWritable_obj_cons (by decide) (BookingMode.isWritable_name _) hrest

end Writable

/-- A week as the service tells it. -/
def FormConfig.weekJson (config : FormConfig) (monday : Date) (days : List Date)
    (rows : List (List Cell)) : Json :=
  .obj [modeJson config, ("week_start", .str monday.iso), ("days", textsJson (days.map (·.iso))),
    ("rows", .arr (rows.map fun row => .arr (row.map Cell.toJson)))]

namespace AvailabilityRequest

variable {limits : Limits} {request : AvailabilityRequest} {config : FormConfig} {zone : TimeZone}
  {clock : Moment} {current : LocalTime}

theorem answer_eq_json {offers : Json}
    (hconfig : normalize limits (.value request.config) = .ok config)
    (hoffers : request.offers zone clock config = .ok offers) :
    request.answer limits zone clock = .json 200 offers := by
  simp only [answer, hconfig, hoffers]

theorem answer_eq_failed {e : CalendarError}
    (hconfig : normalize limits (.value request.config) = .ok config)
    (hoffers : request.offers zone clock config = .error e) :
    request.answer limits zone clock = .failed := by
  simp only [answer, hconfig, hoffers]

/-- The live check of a request: a slot is free if it is not said to be taken. -/
def isFree (request : AvailabilityRequest) : LiveCheck := fun day time =>
  !request.unavailable.contains (day.iso, time)

/-- In calendar mode a grid is made, and its week. -/
theorem offers_eq_weekGrid (hnow : (request.now.getD clock).localTime zone = .ok current)
    (hmode : config.isMultipleDates = false) {monday : Date}
    (hmonday : (request.start.getD current.date).weekStart = monday) :
    request.offers zone clock config =
      ((config.schedule.weekGrid zone monday (.ofLocal current) (some request.isFree) []).map
        Prod.fst).bind fun rows => monday.sevenDays.map fun days =>
          config.weekJson monday days rows := by
  obtain rfl := hmonday
  rw [offers, hnow]
  show (if config.isMultipleDates = true then _ else
    (config.schedule.weekGrid zone _ (.ofLocal current) (some request.isFree) []).bind
      fun found => _) = _
  rw [hmode, if_neg Bool.false_ne_true, bind_map_eq]
  rfl

/-- In multiple-dates mode the days of the range are offered, all at the same times. -/
theorem exists_offers_of_isMultipleDates
    (hnow : (request.now.getD clock).localTime zone = .ok current)
    (hrange : current.date.ordinal + config.schedule.multipleDates.rangeDays ≤ lastOrdinal)
    (hmode : config.isMultipleDates = true) :
    ∃ offers, request.offers zone clock config = .ok offers ∧ offers.isWritable limits = true := by
  obtain ⟨dates, hdates⟩ := Schedule.exists_eligibleDates hrange
  refine ⟨.obj [modeJson config, ("dates", textsJson (dates.map (·.iso))),
    ("times", textsJson config.schedule.pickerTimes)], ?_, ?_⟩
  · rw [offers, hnow]
    show (if config.isMultipleDates = true then _ else _) = _
    rw [if_pos hmode, hdates]
    rfl
  · exact isWritable_modeJson config (Json.isWritable_obj_cons (by decide) (isWritable_isos dates)
      (Json.isWritable_obj_cons (by decide)
        (isWritable_textsJson fun _ => isAscii_of_mem_timesFrom) Json.isWritable_obj_nil))

/-- In calendar mode the week is offered with its grid, up to the horizon. -/
theorem exists_offers_of_isWithinCalendar
    (hnow : (request.now.getD clock).localTime zone = .ok current)
    (hstart : (request.start.getD current.date).ordinal + 6 ≤ lastOrdinal)
    (hmode : config.isMultipleDates = false)
    (hwithin : config.schedule.IsWithinCalendar current.date) :
    ∃ offers, request.offers zone clock config = .ok offers ∧ offers.isWritable limits = true := by
  let start := (request.start.getD current.date).weekStart
  have hweek : start.ordinal + 6 ≤ lastOrdinal :=
    Nat.le_trans (Nat.add_le_add_right (Date.weekStart_le _) 6) hstart
  have hgridWeek : start.weekStart.ordinal + 6 ≤ lastOrdinal :=
    Nat.le_trans (Nat.add_le_add_right (Date.weekStart_le _) 6) hweek
  obtain ⟨first, others, hdays⟩ := Date.exists_sevenDays hweek
  obtain ⟨_, _, hgridDays⟩ := Date.exists_sevenDays hgridWeek
  obtain ⟨⟨rows, after⟩, hgrid⟩ := Schedule.exists_weekGrid hgridDays
    (Moment.localTime_ofLocal current zone) hwithin (some request.isFree) []
  refine ⟨config.weekJson start (first :: others) rows, ?_, ?_⟩
  · rw [offers_eq_weekGrid hnow hmode rfl, hgrid]
    exact congrArg (Except.map _) hdays
  · refine isWritable_modeJson config (Json.isWritable_obj_cons (by decide)
      (Text.isWritable_of_isAscii start.isAscii_iso) (Json.isWritable_obj_cons (by decide)
        (isWritable_isos _) (Json.isWritable_obj_cons (by decide)
          (Json.isWritable_arr fun v hv => ?_) Json.isWritable_obj_nil)))
    obtain ⟨row, hrow, rfl⟩ := List.mem_map.mp hv
    refine Json.isWritable_arr fun w hw => ?_
    obtain ⟨cell, hcell, rfl⟩ := List.mem_map.mp hw
    obtain ⟨htime, -⟩ := Schedule.isOffered_of_mem_weekGrid hgrid row hrow cell hcell
    exact Cell.isWritable_toJson (isAscii_of_mem_timesBetween htime)

/-- In calendar mode nothing is offered beyond the horizon: the request fails. -/
theorem offers_eq_error (hnow : (request.now.getD clock).localTime zone = .ok current)
    (hstart : (request.start.getD current.date).ordinal + 6 ≤ lastOrdinal)
    (hmode : config.isMultipleDates = false)
    (hbeyond : ¬ config.schedule.IsWithinCalendar current.date) :
    request.offers zone clock config = .error .outOfRange := by
  have hgridWeek : (request.start.getD current.date).weekStart.weekStart.ordinal + 6 ≤
      lastOrdinal :=
    Nat.le_trans (Nat.add_le_add_right
      (Nat.le_trans (Date.weekStart_le _) (Date.weekStart_le _)) 6) hstart
  obtain ⟨_, _, hgridDays⟩ := Date.exists_sevenDays hgridWeek
  rw [offers_eq_weekGrid hnow hmode rfl,
    Schedule.weekGrid_eq_error hgridDays (Moment.localTime_ofLocal current zone) hbeyond]
  rfl

end AvailabilityRequest

/-! ## Present moments -/

/-- At a present moment the horizon alone decides whether there is an answer.  The days of
multiple-dates mode are always found.  A slot and a grid have an answer if the last bookable day
lies within the calendar, and otherwise fail; so does the service in calendar mode, whatever request
it is asked by.  A horizon of up to 364875 days always lies within the calendar. -/
theorem availability_answers {service : Service} (hzone : service.zone.IsWithinDay)
    {source : Source} {config : FormConfig} {now : Moment}
    (hconfig : normalize service.limits source = .ok config) (hnow : now.IsPresent) :
    ∃ current, now.localTime service.zone = .ok current ∧
      (config.schedule.advanceDays ≤ 364875 →
        config.schedule.IsWithinCalendar current.date) ∧
      (∀ today : Date, today.year ≤ 9000 ∨ today = current.date →
        ∃ dates, config.schedule.eligibleDates today = .ok dates) ∧
      (∀ day time check asked,
        (config.schedule.IsWithinCalendar current.date →
          ∃ found, config.schedule.isOffered service.zone day time now check asked =
            .ok found) ∧
        (¬ config.schedule.IsWithinCalendar current.date →
          config.schedule.isOffered service.zone day time now check asked =
            .error .outOfRange)) ∧
      (∀ (start : Date) check asked, start.year ≤ 9000 →
        (config.schedule.IsWithinCalendar current.date →
          ∃ found, config.schedule.weekGrid service.zone start now check asked = .ok found) ∧
        (¬ config.schedule.IsWithinCalendar current.date →
          config.schedule.weekGrid service.zone start now check asked = .error .outOfRange)) ∧
      ∀ request faults clock storage asked,
        service.framework.read request = .ok (.previewAvailability asked) →
        normalize service.limits (.value asked.config) = .ok config →
        asked.now.getD clock = now → (∀ start ∈ asked.start, start.year ≤ 9000) →
        (config.isMultipleDates = true ∨ config.schedule.IsWithinCalendar current.date →
          ∃ offers, service.answer request faults clock storage =
            (.json 200 offers, storage)) ∧
        (config.isMultipleDates = false → ¬ config.schedule.IsWithinCalendar current.date →
          service.answer request faults clock storage = (.bare 500, storage)) := by
  have hrange := (wellFormed_of_normalize hconfig).schedule.multipleDates.rangeDays_le
  have hmax : maxRangeDays = 365 := rfl
  have hlast : lastOrdinal = 3652059 := rfl
  have hpresent : ∀ day : Date, day.year ≤ 9000 → day.ordinal ≤ 3287182 :=
    fun day => Date.ordinal_le_of_year_le
  have hclock := hpresent _ hnow.year.2
  obtain ⟨current, hcurrent, hnear⟩ := hnow.exists_localTime hzone
  refine ⟨current, hcurrent, ?horizon, ?dates, ?slot, ?grid, ?service⟩
  case horizon =>
    intro hadvance
    rw [Schedule.IsWithinCalendar]
    omega
  case dates =>
    rintro today (htoday | rfl)
    · have htoday := hpresent today htoday
      exact Schedule.exists_eligibleDates (by omega)
    · exact Schedule.exists_eligibleDates (by omega)
  case slot =>
    exact fun day time check asked =>
      ⟨fun hwithin => Schedule.exists_isOffered hcurrent hwithin day time check asked,
        fun hbeyond => Schedule.isOffered_eq_error hcurrent hbeyond day time check asked⟩
  case grid =>
    intro start check asked hstart
    have hstart := hpresent start hstart
    have hmonday := start.weekStart_le
    obtain ⟨first, others, hdays⟩ := Date.exists_sevenDays (d := start.weekStart) (by omega)
    exact ⟨fun hwithin => Schedule.exists_weekGrid hdays hcurrent hwithin check asked,
      fun hbeyond => Schedule.weekGrid_eq_error hdays hcurrent hbeyond check asked⟩
  case service =>
    intro request faults clock storage asked hread hnormal hasked hstart
    subst hasked
    have hweek : (asked.start.getD current.date).ordinal + 6 ≤ lastOrdinal := by
      cases hday : asked.start with
      | none =>
        show current.date.ordinal + 6 ≤ lastOrdinal
        omega
      | some day =>
        have hday := hpresent day (hstart day hday)
        show day.ordinal + 6 ≤ lastOrdinal
        omega
    have hoffers : config.isMultipleDates = true ∨
        config.schedule.IsWithinCalendar current.date →
        ∃ offers, asked.offers service.zone clock config = .ok offers ∧
          offers.isWritable service.limits = true := by
      intro h
      cases hmode : config.isMultipleDates with
      | true => exact AvailabilityRequest.exists_offers_of_isMultipleDates hcurrent (by omega) hmode
      | false =>
        have hwithin := h.resolve_left (by simp [hmode])
        exact AvailabilityRequest.exists_offers_of_isWithinCalendar hcurrent hweek hmode hwithin
    rw [Service.answer_of_read hread, Service.perform]
    constructor
    · intro h
      obtain ⟨offers, hok, hwritable⟩ := hoffers h
      rw [AvailabilityRequest.answer_eq_json hnormal hok]
      exact ⟨offers, Prod.ext (if_pos hwritable) rfl⟩
    · intro hmode hbeyond
      rw [AvailabilityRequest.answer_eq_failed hnormal
        (AvailabilityRequest.offers_eq_error hcurrent hweek hmode hbeyond)]
      rfl

/-- A salon that takes bookings for the next ten million days. -/
def farHorizon : Json :=
  .obj [("calendar_settings", .obj [("advance_booking_days", .int 10000000)])]

/-- The configuration of a value that has no record around it. -/
def bareConfig (v : Json) : FormConfig := .ofStored ⟨v, v, .null⟩

/-- A storage with nothing in it. -/
def emptyStorage : Storage := ⟨.root, [], [], []⟩

/-- A service in Tokyo, without anything set in its environment. -/
def plainService : Service where
  limits := .standard
  framework := .standard .standard
  settings := .ofEnvironment []
  zone := .tokyo

/-- A request for the times that a form offers. -/
def availabilityRequest (body : Json) : Request :=
  ⟨"POST", "/api/forms/preview/availability", [], .value body⟩

theorem find_availability :
    Endpoint.find "POST" "/api/forms/preview/availability" = .ok .previewAvailability := by
  have hlast : "/api/forms/preview/availability".toList.getLast? = some 'y' := by
    decide +kernel
  have hparts : Endpoint.ofPath "/api/forms/preview/availability" =
      Endpoint.ofParts ["", "api", "forms", "preview", "availability"] :=
    Endpoint.ofPath_eq_ofParts hlast (by decide) (by decide) (by decide +kernel)
  rw [Endpoint.find, hparts]
  rfl

/-- The body is what is asked. -/
theorem read_availabilityRequest {body : Json} {asked : AvailabilityRequest}
    (hbody : AvailabilityRequest.ofJson body = .ok asked) :
    plainService.framework.read (availabilityRequest body) = .ok (.previewAvailability asked) := by
  have hfind : Endpoint.find (availabilityRequest body).method (availabilityRequest body).path =
      .ok .previewAvailability := find_availability
  rw [plainService, Framework.read_standard hfind, Framework.readAt, availabilityRequest,
    Framework.readBody_value hbody]
  rfl

theorem normalize_farHorizon :
    normalize .standard (.value farHorizon) = .ok (bareConfig farHorizon) := rfl

theorem normalize_nothing :
    normalize .standard (.value (.obj [])) = .ok (bareConfig (.obj [])) := rfl

theorem isPresent_mondayMorning : Schedule.mondayMorning.IsPresent :=
  ⟨by decide +kernel, nofun⟩

/-- A salon that says nothing is answered, and one with a far horizon is not. -/
theorem availability_answers_near_and_far :
    plainService.zone.IsWithinDay ∧
      normalize .standard (.value (.obj [])) = .ok (bareConfig (.obj [])) ∧
      normalize .standard (.value farHorizon) = .ok (bareConfig farHorizon) ∧
      Schedule.mondayMorning.IsPresent ∧
      (∃ offers, plainService.answer (availabilityRequest (.obj [("config", .obj [])])) {}
        Schedule.mondayMorning emptyStorage = (.json 200 offers, emptyStorage)) ∧
      plainService.answer (availabilityRequest (.obj [("config", farHorizon)])) {}
        Schedule.mondayMorning emptyStorage = (.bare 500, emptyStorage) := by
  have hzone : plainService.zone.IsWithinDay := TimeZone.isWithinDay_tokyo
  refine ⟨hzone, normalize_nothing, normalize_farHorizon, isPresent_mondayMorning, ?near, ?far⟩
  case near =>
    obtain ⟨current, -, hnear, -, -, -, hservice⟩ :=
      availability_answers hzone normalize_nothing isPresent_mondayMorning
    exact (hservice _ {} Schedule.mondayMorning emptyStorage ⟨.obj [], none, none, []⟩
      (read_availabilityRequest rfl) normalize_nothing rfl nofun).1
      (Or.inr (hnear (by decide +kernel)))
  case far =>
    obtain ⟨current, hcurrent, -, -, -, -, hservice⟩ :=
      availability_answers hzone normalize_farHorizon isPresent_mondayMorning
    obtain rfl : Schedule.mondayMorning.clock = current := Except.ok.inj hcurrent
    exact (hservice _ {} Schedule.mondayMorning emptyStorage ⟨farHorizon, none, none, []⟩
      (read_availabilityRequest rfl) normalize_farHorizon rfl nofun).2
      (by decide +kernel) (by decide +kernel)

/-- With a far horizon no slot, no grid and no request for them has an answer. -/
theorem availability_unanswered_far :
    normalize .standard (.value farHorizon) = .ok (bareConfig farHorizon) ∧
      Schedule.mondayMorning.IsPresent ∧ Schedule.mondayMorning.clock.date.year = 2025 ∧
      (bareConfig farHorizon).schedule.isOffered .tokyo Schedule.mondayMorning.clock.date "10:00"
        Schedule.mondayMorning none [] = .error .outOfRange ∧
      (bareConfig farHorizon).schedule.weekGrid .tokyo Schedule.mondayMorning.clock.date
        Schedule.mondayMorning none [] = .error .outOfRange ∧
      plainService.answer (availabilityRequest (.obj [("config", farHorizon)])) {}
        Schedule.mondayMorning emptyStorage = (.bare 500, emptyStorage) := by
  have hbeyond : ¬ (bareConfig farHorizon).schedule.IsWithinCalendar
      Schedule.mondayMorning.clock.date := by
    decide +kernel
  obtain ⟨first, others, hdays⟩ := Date.exists_sevenDays
    (d := Schedule.mondayMorning.clock.date.weekStart) (by decide)
  refine ⟨normalize_farHorizon, isPresent_mondayMorning, by decide +kernel, ?slot, ?grid,
    ?service⟩
  case slot => exact Schedule.isOffered_eq_error rfl hbeyond _ _ _ _
  case grid => exact Schedule.weekGrid_eq_error hdays rfl hbeyond _ _
  case service =>
    have hread : plainService.framework.read (availabilityRequest (.obj [("config", farHorizon)])) =
        .ok (.previewAvailability ⟨farHorizon, none, none, []⟩) := read_availabilityRequest rfl
    have hoffers : (⟨farHorizon, none, none, []⟩ : AvailabilityRequest).offers plainService.zone
        Schedule.mondayMorning (bareConfig farHorizon) = .error .outOfRange :=
      AvailabilityRequest.offers_eq_error rfl (by decide +kernel) (by decide +kernel) hbeyond
    have hfailed : (⟨farHorizon, none, none, []⟩ : AvailabilityRequest).answer plainService.limits
        plainService.zone Schedule.mondayMorning = .failed :=
      AvailabilityRequest.answer_eq_failed normalize_farHorizon hoffers
    rw [Service.answer_of_read hread, Service.perform, hfailed]
    rfl

end SalonBooking
