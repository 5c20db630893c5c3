import SalonBooking.Text.Percent

/-!
# Addresses

The address of a request is a path, perhaps a query behind a question mark and
perhaps a fragment behind a number sign.  The fragment is not sent.  An address
may name a scheme and a host, but whoever is named, the service is asked; if it
does not name both, its path leads from the root, whether or not it starts with
a slash.

The segments `.` and `..` of a path are resolved as they are written.  After
that the path is decoded twice, once on the way and once by the service.
-/

namespace SalonBooking

/-- Where a request goes: a path that is decoded, and what its query sets. -/
structure Address where
  path : String
  query : Assoc String String

namespace Address

/-! ## Segments -/

/-- The segments of a path without `.` and `..`, after those already kept, which are in reverse.
A `..` takes the segment before it away, but not the root. -/
def dropDots (kept : List String) : List String → List String
  | [] => kept.reverse
  | segment :: rest =>
    if segment = "." then dropDots kept rest
    else if segment = ".." then dropDots (if kept = [""] then kept else kept.tail) rest
    else dropDots (segment :: kept) rest

/-- A path with its segments `.` and `..` resolved. -/
def resolveDots (path : String) : String :=
  "/".intercalate (dropDots [] (path.splitOn "/"))

/-! ## Reading -/

/-- The most code points that an address has. -/
def maxLength : Nat := 65536

/-- A character that no address holds: an ASCII control. -/
def isControl (c : Char) : Bool :=
  c.toNat < 0x20 || c.toNat == 0x7F

/-- A character of the name of a scheme. -/
def isSchemeChar (c : Char) : Bool :=
  c.isAlphanum || c == '+' || c == '.' || c == '-'

/-- The scheme in front of a colon, if there is one, and what follows.  A scheme starts with a
letter; it may be empty. -/
def splitScheme (text : List Char) : List Char × List Char :=
  let scheme := text.takeWhile isSchemeChar
  match text.dropWhile isSchemeChar with
  | ':' :: rest => if scheme.head?.all Char.isAlpha then (scheme, rest) else ([], text)
  | _ => ([], text)

/-- The host behind two slashes, if there is one, and the path that follows. -/
def splitHost : List Char → List Char × List Char
  | '/' :: '/' :: rest => (rest.takeWhile (· != '/'), rest.dropWhile (· != '/'))
  | text => ([], text)

/-- Whether a path could be taken for a host or a scheme. -/
def isAmbiguous : List Char → Bool
  | '/' :: '/' :: _ => true
  | ':' :: _ => true
  | _ => false

/-- The path that an address without query and fragment writes, from the root. -/
def pathFromRoot? (text : List Char) : Option String :=
  let (scheme, afterScheme) := splitScheme text
  let (host, path) := splitHost afterScheme
  if scheme.isEmpty && host.isEmpty && isAmbiguous path then none
  else if scheme.isEmpty || host.isEmpty then
    some (String.ofList ('/' :: path.dropWhile (· == '/')))
  else some (String.ofList path)

/-- What a text holds before the first of a mark, and after it if it is there. -/
def cutAt (mark : Char) (text : String) : String × String :=
  (Text.splitAtMark? mark text).getD (text, "")

/-- The address that a text writes.  `settings?` is a query that stands in for that of the text. -/
def ofText? (text : String) (settings? : Option (Assoc String String)) : Option Address :=
  if maxLength < Text.length text || text.toList.any isControl then none
  else
    let (location, query) := cutAt '?' (cutAt '#' text).1
    (pathFromRoot? location.toList).map fun path =>
      ⟨Text.percentDecode (Text.percentDecode (resolveDots path)),
        settings?.getD (Text.readQuery query)⟩

end Address

end SalonBooking
