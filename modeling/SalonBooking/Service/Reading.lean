import SalonBooking.Json.Basic

/-!
# Reading the body of a request

A reading takes a value of the body and gives what it says, or all the values
in it that were refused: a value of the wrong kind, or the object in which
something is missing.  Two readings side by side refuse what either of them
refuses.
-/

namespace SalonBooking

/-- What is read of a body, or the values that were refused. -/
abbrev Reading (α : Type) := Except (List Json) α

namespace Reading

/-- The reading that refuses a value. -/
def refuse {α : Type} (v : Json) : Reading α :=
  .error [v]

/-- The reading of a value that refuses it unless it can be understood. -/
def ofOption {α : Type} (v : Json) : Option α → Reading α
  | some a => .ok a
  | none => refuse v

/-- Two readings as one. -/
def both {α β : Type} : Reading α → Reading β → Reading (α × β)
  | .ok a, .ok b => .ok (a, b)
  | .ok _, .error refused => .error refused
  | .error refused, .ok _ => .error refused
  | .error refused, .error others => .error (refused ++ others)

/-- The readings of a list as one. -/
def all {α : Type} : List (Reading α) → Reading (List α)
  | [] => .ok []
  | reading :: rest => (both reading (all rest)).map fun (a, others) => a :: others

end Reading

namespace Json

/-- A value that is an object. -/
def readObject (v : Json) : Reading Json :=
  if v.isObject then .ok v else .refuse v

/-- A value that is a text. -/
def readText (v : Json) : Reading String :=
  .ofOption v v.text?

/-- A value that is a list, its items read one by one. -/
def readList {α : Type} (read : Json → Reading α) (v : Json) : Reading (List α) :=
  match v with
  | .arr items => .all (items.map read)
  | _ => .refuse v

/-- A value that may be `null`. -/
def readNullable {α : Type} (read : Json → Reading α) (v : Json) : Reading (Option α) :=
  match v with
  | .null => .ok none
  | v => (read v).map some

/-- The member of a name, if there is one, and otherwise what stands in for it. -/
def readMember {α : Type} (body : Json) (name : String) (read : Json → Reading α)
    (missing : Reading α) : Reading α :=
  if body.hasMember name then read (body.get name) else missing

end Json

end SalonBooking
