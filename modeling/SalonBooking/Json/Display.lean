import SalonBooking.Json.Basic
import SalonBooking.Number.Shortest
import SalonBooking.Text.Quoted

/-!
# Showing JSON values in running text

The text that an answer of unexpected shape contributes to a message: a string
is shown as it is, the other values by their display.  Inside a list or an
object strings stand in quotes.
-/

namespace SalonBooking.Json

/-- The words and marks of a display. -/
structure DisplayWords where
  nothing : String
  yes : String
  no : String
  separator : String
  colon : String

/-- The words and marks in use. -/
def displayWords : DisplayWords := ⟨"None", "True", "False", ", ", ": "⟩

mutual

/-- A value as it stands inside a list or an object. -/
def displayInside : Json → String
  | .null => displayWords.nothing
  | .bool true => displayWords.yes
  | .bool false => displayWords.no
  | .int n => toString n
  | .float x => String.ofList x.display
  | .str s => Text.quoted s
  | .arr items => "[" ++ displayItems items ++ "]"
  | .obj members => "\x7b" ++ displayMembers members ++ "\x7d"

/-- The items of a list, with separators between them. -/
def displayItems : List Json → String
  | [] => ""
  | [v] => displayInside v
  | v :: rest => displayInside v ++ displayWords.separator ++ displayItems rest

/-- The members of an object, with separators between them. -/
def displayMembers : List (String × Json) → String
  | [] => ""
  | [(key, v)] => Text.quoted key ++ displayWords.colon ++ displayInside v
  | (key, v) :: rest =>
    Text.quoted key ++ displayWords.colon ++ displayInside v ++ displayWords.separator ++
      displayMembers rest

end

/-- The text that a value contributes. -/
def display : Json → String
  | .str s => s
  | v => displayInside v

end SalonBooking.Json
