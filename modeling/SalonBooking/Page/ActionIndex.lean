import SalonBooking.Data.Parts
import SalonBooking.Json.Basic
import SalonBooking.Markup.Node
import SalonBooking.Page.Script
import SalonBooking.Text.Quoted

/-!
# The actions of a page

An element names the action that it starts in its `data-action` attribute.  The
index of a page lists each of its actions once, in document order, with the
event that starts it.  An action that the page's script does not handle makes
the index fail.
-/

namespace SalonBooking

/-- Why a page cannot be made. -/
inductive PageError where
  /-- An element names an action that the page's script does not handle. -/
  | unknownAction (action : String)
  /-- The tree of the page cannot be written. -/
  | markup (e : MarkupError)
  /-- An integer that the page's script would hold has too many digits. -/
  | integerTooLong
  deriving DecidableEq, Repr

/-- The text of an error.  That an integer is not converted has no text of its own. -/
def PageError.message? : PageError → Option String
  | .unknownAction action => some ("no client handler for data-action " ++ Text.quoted action)
  | .markup e => e.message?
  | .integerTooLong => none

namespace Page

/-- The attribute that names an element's action. -/
def actionAttr : String := "data-action"

/-- The action that some attributes name; only a text names one. -/
def actionOf? (attrs : Assoc String AttrValue) : Option String :=
  match attrs.get? actionAttr with
  | some (.text action) => some action
  | _ => none

/-- The actions of a page, each once, in document order. -/
def actions (root : Node) : List String :=
  distinct (root.elements.filterMap fun (_, attrs) => actionOf? attrs)

/-- The actions of a page with their events. -/
def actionIndex (root : Node) : Except PageError (List (String × String)) :=
  (actions root).mapM fun action =>
    match clientActions.get? action with
    | some event => .ok (action, event)
    | none => .error (.unknownAction action)

/-- An index as the page embeds it. -/
def indexJson (index : List (String × String)) : Json :=
  .arr (index.map fun (action, event) => .obj [("action", .str action), ("event", .str event)])

end Page

end SalonBooking
