import SalonBooking.Json.Writable

/-!
# Replies

What the service answers to a request.  A request that is refused, and one that
fails in a way that nobody promised to report, is answered by its status alone.

What cannot be written is not sent: a reply with a surrogate in it, or with an
integer that is not converted, fails instead.
-/

namespace SalonBooking

/-- An answer of the service. -/
inductive Reply where
  | bare (status : Nat)
  | page (html : String)
  | json (status : Nat) (body : Json)

namespace Reply

/-- The answer to a request that fails unexpectedly. -/
def failed : Reply := .bare 500

/-- The answer that tells an error. -/
def error (status : Nat) (message : Option String) : Reply :=
  .json status (.obj [("error", match message with
    | some text => .str text
    | none => .null)])

/-- Whether an answer can be written. -/
def isWritable (limits : Limits) : Reply → Bool
  | .bare _ => true
  | .page html => Text.isWritable html
  | .json _ body => body.isWritable limits

/-- The answer as it is sent. -/
def sent (limits : Limits) (reply : Reply) : Reply :=
  if reply.isWritable limits then reply else failed

end Reply

end SalonBooking
