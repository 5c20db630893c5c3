import SalonBooking.Service.Endpoint
import SalonBooking.Service.Reply
import SalonBooking.Service.Request

/-!
# Frameworks

A service runs in a framework, which finds out what a request asks for, reads what
the service needs to know from its body, and answers by itself what it refuses.

`Framework.standard` finds the endpoint by the method and the path of a request.
A body that lacks something needed, or has something of another kind than it
should be, is refused; the refusal shows the values that were refused, and fails
if they cannot be written.
-/

namespace SalonBooking

/-- What a request asks the service for. -/
inductive ServiceCall where
  | health
  | render (request : RenderRequest)
  | previewSubmission (request : SubmissionRequest)
  | previewAvailability (request : AvailabilityRequest)
  | publish (formId : String) (request : PublishRequest)
  | withdraw (storeId formId : String)

/-- A framework, by what it reads of a request: what the service is asked for, or the reply if it is
asked for nothing. -/
structure Framework where
  read : Request → Except Reply ServiceCall

namespace Framework

/-- The reply to a refused request. -/
def refused (reason : Refusal) : Reply :=
  .bare reason.status

/-- The reply to a request with a body of which some values are refused. -/
def refusedValues (limits : Limits) (values : List Json) : Reply :=
  if values.all (Json.isWritable limits) then refused .malformed else .failed

/-- The text about a body that cannot be read. -/
def unreadText : String := "There was an error parsing the body"

/-- The reply to a request with a body that is not read. -/
def unread : Json.ReadError → Reply
  | .malformed => refused .malformed
  | _ => .json 400 (.obj [("detail", .str unreadText)])

/-- What is read of a body, or the reply if nothing is. -/
def readBody {α : Type} (limits : Limits) (ofJson : Json → Reading α) : Body → Except Reply α
  | .absent => .error (refused .malformed)
  | .unread cause => .error (unread cause)
  | .value v => (ofJson v).mapError (refusedValues limits)

/-- What is read of a request to an endpoint. -/
def readAt (limits : Limits) (request : Request) : Endpoint → Except Reply ServiceCall
  | .health => .ok .health
  | .documentation => .error (.bare 200)
  | .render => (readBody limits RenderRequest.ofJson request.body).map .render
  | .previewSubmission =>
    (readBody limits SubmissionRequest.ofJson request.body).map .previewSubmission
  | .previewAvailability =>
    (readBody limits AvailabilityRequest.ofJson request.body).map .previewAvailability
  | .publish formId => (readBody limits PublishRequest.ofJson request.body).map (.publish formId)
  | .withdraw formId =>
    match request.query.get? "store_id" with
    | some storeId => .ok (.withdraw storeId formId)
    | none => .error (refused .malformed)

/-- The framework by the rules of `Endpoint` and `Reading`. -/
def standard (limits : Limits) : Framework where
  read request :=
    match Endpoint.find request.method request.path with
    | .ok endpoint => readAt limits request endpoint
    | .error reason => .error (refused reason)

end Framework

end SalonBooking
