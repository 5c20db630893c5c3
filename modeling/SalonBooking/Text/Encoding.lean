import SalonBooking.Text.Utf8

/-!
# Encodings of a JSON text

A JSON text that comes as bytes is in UTF-8, UTF-16 or UTF-32.  A byte order
mark decides; without one the zero bytes among the first four do, since a JSON
text starts with an ASCII character.  Bytes that are no text in the detected encoding
have no decoding, but a surrogate that stands alone is kept.
-/

namespace SalonBooking.Text

/-- An encoding of a text, the byte order mark not included. -/
inductive Encoding where
  | utf8
  | utf16 (bigEndian : Bool)
  | utf32 (bigEndian : Bool)
  deriving DecidableEq, Repr

namespace Encoding

/-- The encoding of some bytes, and the bytes after the byte order mark. -/
def detect : List UInt8 → Encoding × List UInt8
  | 0x00 :: 0x00 :: 0xFE :: 0xFF :: rest => (.utf32 true, rest)
  | 0xFF :: 0xFE :: 0x00 :: 0x00 :: rest => (.utf32 false, rest)
  | 0xFE :: 0xFF :: rest => (.utf16 true, rest)
  | 0xFF :: 0xFE :: rest => (.utf16 false, rest)
  | 0xEF :: 0xBB :: 0xBF :: rest => (.utf8, rest)
  | bytes => (unmarked bytes, bytes)
where
  /-- The encoding that the zero bytes of an unmarked text tell. -/
  unmarked : List UInt8 → Encoding
    | a :: b :: c :: d :: _ =>
      if a == 0 then (if b == 0 then .utf32 true else .utf16 true)
      else if b == 0 then (if c == 0 && d == 0 then .utf32 false else .utf16 false)
      else .utf8
    | [a, b] =>
      if a == 0 then .utf16 true else if b == 0 then .utf16 false else .utf8
    | _ => .utf8

/-- The units of two bytes, if the bytes come in pairs. -/
def pairs (bigEndian : Bool) : List UInt8 → Option (List Nat)
  | [] => some []
  | [_] => none
  | a :: b :: rest =>
    let unit := if bigEndian then a.toNat * 256 + b.toNat else b.toNat * 256 + a.toNat
    (pairs bigEndian rest).map (unit :: ·)

/-- The code points of a list of two-byte units. -/
def ofUnits16 : List Nat → List Nat
  | [] => []
  | high :: low :: rest =>
    if isHighSurrogate high && isLowSurrogate low then joinSurrogates high low :: ofUnits16 rest
    else high :: ofUnits16 (low :: rest)
  | [unit] => [unit]

/-- The code points of units of four bytes, if the bytes come in fours. -/
def ofBytes32 (bigEndian : Bool) : List UInt8 → Option (List Nat)
  | [] => some []
  | a :: b :: c :: d :: rest =>
    let value (w x y z : UInt8) := ((w.toNat * 256 + x.toNat) * 256 + y.toNat) * 256 + z.toNat
    let unit := if bigEndian then value a b c d else value d c b a
    if unit < codeLimit then (ofBytes32 bigEndian rest).map (unit :: ·) else none
  | _ => none

/-- The code points that some bytes are in an encoding. -/
def decode? : Encoding → List UInt8 → Option (List Nat)
  | .utf8, bytes => Utf8.decode? bytes
  | .utf16 bigEndian, bytes => (pairs bigEndian bytes).map ofUnits16
  | .utf32 bigEndian, bytes => ofBytes32 bigEndian bytes

end Encoding

/-- The text of a JSON document given as bytes. -/
def decodeDetected? (bytes : ByteArray) : Option String :=
  let (encoding, rest) := Encoding.detect bytes.data.toList
  (encoding.decode? rest).map ofCodes

end SalonBooking.Text
