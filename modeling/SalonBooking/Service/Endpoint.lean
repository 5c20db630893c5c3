import SalonBooking.Service.Address
import SalonBooking.Text.Blank

/-!
# Endpoints

What the service can be asked, and how a method and a path name it.  The id of
a form in a path is not empty.  One line feed at the end of a path does not
matter.  Who asks with slashes at the end of a path is sent to the path without
them, and that path is resolved and decoded once more.
-/

namespace SalonBooking

/-- What the service can be asked. -/
inductive Endpoint where
  | health
  | render
  | previewSubmission
  | previewAvailability
  | publish (formId : String)
  | withdraw (formId : String)
  /-- The pages about the service itself. -/
  | documentation
  deriving DecidableEq, Repr

/-- Why a request is refused before it reaches a form. -/
inductive Refusal where
  | unknownPath
  | wrongMethod
  | malformed
  deriving DecidableEq, Repr

/-- The status of a refusal. -/
def Refusal.status : Refusal → Nat
  | .unknownPath => 404
  | .wrongMethod => 405
  | .malformed => 422

namespace Endpoint

/-- The endpoints of a path given by its parts, each with its method. -/
def ofParts : List String → List (String × Endpoint)
  | ["", "health"] => [("GET", .health)]
  | ["", "openapi.json"] => [("GET", .documentation), ("HEAD", .documentation)]
  | ["", "docs"] => [("GET", .documentation), ("HEAD", .documentation)]
  | ["", "docs", "oauth2-redirect"] => [("GET", .documentation), ("HEAD", .documentation)]
  | ["", "redoc"] => [("GET", .documentation), ("HEAD", .documentation)]
  | ["", "api", "forms", "render"] => [("POST", .render)]
  | ["", "api", "forms", "preview", "submission"] => [("POST", .previewSubmission)]
  | ["", "api", "forms", "preview", "availability"] => [("POST", .previewAvailability)]
  | ["", "api", "forms", formId, "deploy"] =>
    if formId.isEmpty then [] else [("POST", .publish formId), ("DELETE", .withdraw formId)]
  | _ => []

/-- A text without a line feed at its end. -/
def dropLineFeed (s : String) : String :=
  match s.toList.reverse with
  | '\n' :: before => String.ofList before.reverse
  | _ => s

/-- The endpoints that a path names itself, each with its method. -/
def named (path : String) : List (String × Endpoint) :=
  ofParts ((dropLineFeed path).splitOn "/")

/-- The endpoints of a path, each with its method. -/
def ofPath (path : String) : List (String × Endpoint) :=
  let shorter := Text.dropTrailingSlashes path
  if shorter == path || (named shorter).isEmpty then named path
  else named (Text.percentDecode (Address.resolveDots shorter))

/-- The endpoint that a method and a path name. -/
def find (method path : String) : Except Refusal Endpoint :=
  match ofPath path with
  | [] => .error .unknownPath
  | endpoints =>
    match endpoints.lookup method with
    | some endpoint => .ok endpoint
    | none => .error .wrongMethod

end Endpoint

end SalonBooking
