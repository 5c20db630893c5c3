import SalonBooking.Json.Basic
import SalonBooking.Number.Shortest
import SalonBooking.Text.Quoted

/-!
# Writing JSON

Values are written without blanks, members and items in their order.  A string
keeps every character except the quote, the backslash and the controls below
the space.  `Json.embed` writes a value for the body of a script element: `<`
and the two line separators, which occur in strings only, are escaped as well,
so the text neither closes the element nor breaks a line.

`write`, `print` and `embed` are the texts of a value whose integers are all
converted; `Json.embed?` fails for one that does not fit the machine.
-/

namespace SalonBooking.Json

/-- One character of a JSON string. -/
def escapedChar (c : Char) : List Char :=
  if c == '"' then ['\\', '"']
  else if c == '\\' then ['\\', '\\']
  else if c == '\n' then ['\\', 'n']
  else if c == '\r' then ['\\', 'r']
  else if c == '\t' then ['\\', 't']
  else if c.toNat == 8 then ['\\', 'b']
  else if c.toNat == 12 then ['\\', 'f']
  else if c.toNat < 0x20 then '\\' :: 'u' :: Text.hexDigits 4 c.toNat
  else [c]

/-- A string between quotes. -/
def writeString (s : String) : List Char :=
  '"' :: s.toList.flatMap escapedChar ++ ['"']

/-- A number; infinities and what is not a number have words. -/
def writeFloat : Binary64 → List Char
  | .infinite negative => (if negative then ['-'] else []) ++ "Infinity".toList
  | .notANumber => "NaN".toList
  | x => x.display

mutual

/-- The text of a value. -/
def write : Json → List Char
  | .null => "null".toList
  | .bool true => "true".toList
  | .bool false => "false".toList
  | .int n => (toString n).toList
  | .float x => writeFloat x
  | .str s => writeString s
  | .arr items => '[' :: writeItems items ++ [']']
  | .obj members => '{' :: writeMembers members ++ ['}']

/-- The texts of the items of an array, with commas between them. -/
def writeItems : List Json → List Char
  | [] => []
  | [v] => write v
  | v :: rest => write v ++ ',' :: writeItems rest

/-- The texts of the members of an object, with commas between them. -/
def writeMembers : List (String × Json) → List Char
  | [] => []
  | [(key, v)] => writeString key ++ ':' :: write v
  | (key, v) :: rest => writeString key ++ ':' :: write v ++ ',' :: writeMembers rest

end

/-- A character of a JSON text inside a script element. -/
def scriptSafeChar (c : Char) : List Char :=
  if c == '<' then "\\u003c".toList
  else if c.toNat == 0x2028 then "\\u2028".toList
  else if c.toNat == 0x2029 then "\\u2029".toList
  else [c]

/-- The text of a value. -/
def print (v : Json) : String :=
  String.ofList v.write

/-- The text of a value for the body of a script element. -/
def embed (v : Json) : String :=
  String.ofList (v.write.flatMap scriptSafeChar)

/-- The same on a machine that may not convert all integers of the value. -/
def embed? (limits : Limits) (v : Json) : Option String :=
  if v.fits limits then some v.embed else none

end SalonBooking.Json
