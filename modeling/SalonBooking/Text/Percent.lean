import SalonBooking.Text.DecimalDigit
import SalonBooking.Data.Assoc
import SalonBooking.Text.Quoted
import SalonBooking.Text.Utf8

/-!
# Percent encoding

Paths and queries in addresses.  Writing keeps the slash and the unreserved
characters (ASCII letters, digits and `_.-~`) and spells every other byte as `%`
and two capital hexadecimal digits.  Reading turns such triples
back into bytes and leaves everything else alone; where the bytes are no text a
replacement character stands.

A query is a list of names and values between ampersands, in which `+` is a
blank.
-/

namespace SalonBooking.Text

/-- A byte that stands for itself in a path. -/
def isPathByte (b : UInt8) : Bool :=
  let c := Char.ofNat b.toNat
  c.isAlphanum || c == '/' || c == '_' || c == '.' || c == '-' || c == '~'

/-- A path in bytes as it stands in an address. -/
def percentEncode (path : List UInt8) : String :=
  String.ofList (path.flatMap fun b =>
    if isPathByte b then [Char.ofNat b.toNat]
    else '%' :: (hexDigits 2 b.toNat).map Char.toUpper)

/-- The value of a hexadecimal digit. -/
def hexValue? (c : Char) : Option Nat :=
  if c.isDigit then some (c.toNat - '0'.toNat)
  else if 'a' ≤ c ∧ c ≤ 'f' then some (c.toNat - 'a'.toNat + 10)
  else if 'A' ≤ c ∧ c ≤ 'F' then some (c.toNat - 'A'.toNat + 10)
  else none

/-- The bytes of a path in an address, `%` and two hexadecimal digits being one byte. -/
def percentBytes : List Char → List UInt8
  | '%' :: a :: b :: rest =>
    match hexValue? a, hexValue? b with
    | some high, some low => UInt8.ofNat (high * 16 + low) :: percentBytes rest
    | _, _ => '%'.toUInt8 :: percentBytes (a :: b :: rest)
  | c :: rest => (String.singleton c).toUTF8.data.toList ++ percentBytes rest
  | [] => []

/-- The text that a part of an address spells. -/
def percentDecode (s : String) : String :=
  ofCodes (Utf8.decodeLossy (percentBytes (plain s).toList))

/-- The parts of a text before and after the first of a mark, if it is there. -/
def splitAtMark? (mark : Char) (s : String) : Option (String × String) :=
  match s.toList.dropWhile (· != mark) with
  | _ :: after => some (String.ofList (s.toList.takeWhile (· != mark)), String.ofList after)
  | [] => none

/-- A name or a value that a query spells. -/
def queryText (s : String) : String :=
  percentDecode (String.ofList (s.toList.map fun c => if c == '+' then ' ' else c))

/-- The names and values that a query spells; a name without a value has the empty one. -/
def queryPairs (s : String) : List (String × String) :=
  ((s.splitOn "&").filter (!·.isEmpty)).map fun part =>
    match splitAtMark? '=' part with
    | some (name, value) => (queryText name, queryText value)
    | none => (queryText part, "")

/-- What a query sets, the last value of each name. -/
def readQuery (s : String) : Assoc String String :=
  Assoc.ofPairs (queryPairs s)

end SalonBooking.Text
