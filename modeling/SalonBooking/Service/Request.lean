import SalonBooking.Calendar.Timestamp
import SalonBooking.Json.Reader
import SalonBooking.Service.Address
import SalonBooking.Service.Reading

/-!
# Requests

A request has a method, a path, a query and a body, and each endpoint reads
from the body what it needs.  A body that lacks something needed, or has
something of another kind than it should be, is refused.  What is not asked for
may be anything; a configuration may be anything too, since it is judged later.
-/

namespace SalonBooking

/-- The body of a request. -/
inductive Body where
  | absent
  /-- Bytes that are not read as JSON. -/
  | unread (cause : Json.ReadError)
  | value (v : Json)

/-- The body that some bytes are. -/
def Body.ofBytes (limits : Limits) (bytes : ByteArray) : Body :=
  if bytes.isEmpty then .absent
  else
    match Json.readBytes limits bytes with
    | .ok v => .value v
    | .error cause => .unread cause

/-- A request to the service. -/
structure Request where
  method : String
  path : String
  query : Assoc String String
  body : Body

/-- The request that goes to an address.  `settings?` is a query that stands in for that of the
address.  Small letters of a method count as capitals. -/
def Request.ofAddress? (method address : String) (settings? : Option (Assoc String String))
    (body : Body) : Option Request :=
  (Address.ofText? address settings?).map fun there =>
    ⟨method.toUpper, there.path, there.query, body⟩

/-! ## What the endpoints read -/

/-- A request for a page. -/
structure RenderRequest where
  config : Json
  formId : String
  storeId : String

/-- The request for a page that a body makes. -/
def RenderRequest.ofJson (v : Json) : Reading RenderRequest := do
  let body ← v.readObject
  let (formId, storeId) ← (body.readMember "form_id" Json.readText (.ok "")).both
    (body.readMember "store_id" Json.readText (.ok ""))
  return ⟨body.get "config", formId, storeId⟩

/-- A request to look at a selection. -/
structure SubmissionRequest where
  config : Json
  selection : Json

/-- The request to look at a selection that a body makes. -/
def SubmissionRequest.ofJson (v : Json) : Reading SubmissionRequest := do
  let body ← v.readObject
  return ⟨body.get "config", ← body.readMember "selection" Json.readObject (.ok (.obj []))⟩

/-- A request for the times that are offered. -/
structure AvailabilityRequest where
  config : Json
  start : Option Date
  now : Option Moment
  unavailable : List (String × String)

namespace AvailabilityRequest

/-- The day and time of a slot. -/
def readSlot (v : Json) : Reading (String × String) := do
  let slot ← v.readObject
  (slot.readMember "date" Json.readText (.refuse slot)).both
    (slot.readMember "time" Json.readText (.refuse slot))

/-- The request for times that a body makes. -/
def ofJson (v : Json) : Reading AvailabilityRequest := do
  let body ← v.readObject
  let start := body.readMember "start"
    (Json.readNullable fun v => .ofOption v (Moment.dateOfJson? v)) (.ok none)
  let now := body.readMember "now"
    (Json.readNullable fun v => .ofOption v (Moment.ofJson? v)) (.ok none)
  let unavailable := body.readMember "unavailable" (Json.readList readSlot) (.ok [])
  let (start, now, unavailable) ← start.both (now.both unavailable)
  return ⟨body.get "config", start, now, unavailable⟩

end AvailabilityRequest

/-- A request to publish a page. -/
structure PublishRequest where
  config : Json
  storeId : String

/-- The request to publish a page that a body makes. -/
def PublishRequest.ofJson (v : Json) : Reading PublishRequest := do
  let body ← v.readObject
  return ⟨body.get "config", ← body.readMember "store_id" Json.readText (.refuse body)⟩

end SalonBooking
