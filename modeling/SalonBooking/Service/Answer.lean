import SalonBooking.Booking.Message
import SalonBooking.Booking.Validation
import SalonBooking.Page.Document
import SalonBooking.Publish.Publisher
import SalonBooking.Service.Framework

/-!
# Answers

What the service answers to what it is asked for.  A configuration that is no
object is the fault of whoever asks; a page that cannot be published is not.  Only
publishing and withdrawing touch the storage.
-/

namespace SalonBooking

namespace Reply

/-- The answer to a configuration that cannot be read. -/
def badConfig (e : ConfigError) : Reply :=
  match e.message? with
  | some message => error 400 (some message)
  | none => failed

/-- The answer to a page that cannot be generated. -/
def badPage : GenerateError → Reply
  | .config e => badConfig e
  | .page _ => failed

/-- The answer to an attempt to publish or withdraw a page that failed. -/
def badPublish (e : PublishError) : Reply :=
  if e.isReported then error 500 e.message? else failed

end Reply

/-- A list of texts as JSON. -/
def textsJson (texts : List String) : Json :=
  .arr (texts.map .str)

/-! ## Previews -/

/-- The page of a configuration, without publishing it. -/
def RenderRequest.answer (limits : Limits) (request : RenderRequest) : Reply :=
  match generate limits (.value request.config) request.formId request.storeId with
  | .ok html => .page html
  | .error e => .badPage e

/-- What would be said about a selection, and the message that would be sent. -/
def FormConfig.submissionJson (config : FormConfig) (sel : Selection) : Json :=
  let missing := config.missing sel
  let totals := config.catalogue.totals sel
  .obj [("ok", .bool missing.isEmpty), ("errors", textsJson (missing.map (·.message))),
    ("phase", .str (config.catalogue.phase sel).name),
    ("text", if missing.isEmpty then .str (config.message sel) else .null),
    ("total_price", .int totals.price), ("total_duration", .int totals.duration)]

/-- A trial of a selection. -/
def SubmissionRequest.answer (limits : Limits) (request : SubmissionRequest) : Reply :=
  match normalize limits (.value request.config) with
  | .error e => .badConfig e
  | .ok config =>
    match Selection.ofJson limits request.selection with
    | .error _ => .failed
    | .ok sel =>
      if (config.shownAnswers sel).all (Json.fits limits) then .json 200 (config.submissionJson sel)
      else .failed

/-- A cell of the grid as JSON. -/
def Cell.toJson (cell : Cell) : Json :=
  .obj [("date", .str cell.date.iso), ("time", .str cell.time), ("offered", .bool cell.offered)]

/-- The name of the way in which dates are chosen. -/
def modeJson (config : FormConfig) : String × Json :=
  ("mode", .str config.schedule.mode.name)

/-- The times that a form offers: a week in calendar mode, all days in the other. -/
def AvailabilityRequest.offers (request : AvailabilityRequest) (zone : TimeZone) (clock : Moment)
    (config : FormConfig) : Except CalendarError Json := do
  let now ← (request.now.getD clock).localTime zone
  if config.isMultipleDates then
    let dates ← config.schedule.eligibleDates now.date
    return .obj [modeJson config, ("dates", textsJson (dates.map (·.iso))),
      ("times", textsJson config.schedule.pickerTimes)]
  else
    let start := (request.start.getD now.date).weekStart
    let isFree : LiveCheck := fun day time => !request.unavailable.contains (day.iso, time)
    let (rows, _) ← (config.schedule.weekGrid zone start (.ofLocal now) isFree).run []
    let days ← start.sevenDays
    return .obj [modeJson config, ("week_start", .str start.iso),
      ("days", textsJson (days.map (·.iso))),
      ("rows", .arr (rows.map fun row => .arr (row.map Cell.toJson)))]

/-- The times that a form offers; `clock` is the time of a request that tells none. -/
def AvailabilityRequest.answer (limits : Limits) (request : AvailabilityRequest) (zone : TimeZone)
    (clock : Moment) : Reply :=
  match normalize limits (.value request.config) with
  | .error e => .badConfig e
  | .ok config =>
    match request.offers zone clock config with
    | .ok offers => .json 200 offers
    | .error _ => .failed

/-! ## Publishing -/

/-- A page generated and published. -/
def PublishRequest.answer (limits : Limits) (request : PublishRequest) (settings : Settings)
    (faults : Faults) (formId : String) (storage : Storage) : Reply × Storage :=
  match generate limits (.value request.config) formId request.storeId with
  | .error e => (.badPage e, storage)
  | .ok html =>
    match settings.publish faults request.storeId formId html storage with
    | (.ok publication, after) =>
      (.json 200 (.obj (("success", .bool true) :: publication.members)), after)
    | (.error e, after) => (.badPublish e, after)

/-- A page withdrawn. -/
def withdrawAnswer (settings : Settings) (faults : Faults) (storeId formId : String)
    (storage : Storage) : Reply × Storage :=
  match settings.withdraw faults storeId formId storage with
  | (.ok deleted, after) =>
    (.json 200 (.obj [("success", .bool true), ("deleted", .bool deleted)]), after)
  | (.error e, after) => (.badPublish e, after)

/-! ## All requests -/

/-- A running service: the limits of its machine, the framework that it runs in, and what its
environment sets. -/
structure Service where
  limits : Limits
  framework : Framework
  settings : Settings
  zone : TimeZone

namespace Service

/-- The service that runs in an environment. -/
def ofEnvironment (limits : Limits) (framework : Framework) (zones : ZoneDatabase)
    (env : Environment) : Service where
  limits := limits
  framework := framework
  settings := .ofEnvironment env
  zone := zones.ofStore (env.get? "TIMEZONE")

variable (service : Service)

/-- What the service answers when it is asked for something, and the storage after it; `clock` is
the time at which it is asked. -/
def perform (faults : Faults) (clock : Moment) (storage : Storage) :
    ServiceCall → Reply × Storage
  | .health => (.json 200 (.obj [("status", .str "ok")]), storage)
  | .render request => (request.answer service.limits, storage)
  | .previewSubmission request => (request.answer service.limits, storage)
  | .previewAvailability request => (request.answer service.limits service.zone clock, storage)
  | .publish formId request =>
    request.answer service.limits service.settings faults formId storage
  | .withdraw storeId formId => withdrawAnswer service.settings faults storeId formId storage

/-- The answer to a request as it is sent, and the storage after it. -/
def answer (request : Request) (faults : Faults) (clock : Moment) (storage : Storage) :
    Reply × Storage :=
  match service.framework.read request with
  | .error reply => (reply.sent service.limits, storage)
  | .ok call =>
    let (reply, after) := service.perform faults clock storage call
    (reply.sent service.limits, after)

variable {service}

/-- What a service answers to what a request asks for is sent as far as it can be written. -/
theorem answer_of_read {request : Request} {call : ServiceCall}
    (hread : service.framework.read request = .ok call) (faults : Faults) (clock : Moment)
    (storage : Storage) :
    service.answer request faults clock storage =
      ((service.perform faults clock storage call).1.sent service.limits,
        (service.perform faults clock storage call).2) := by
  rw [answer, hread]

end Service

end SalonBooking
