import SalonBooking.Text.CodePoint

/-!
# Names in bytes

The system knows a file by bytes.  They are the UTF-8 of its name; and since a
name there may be any bytes, those that are no text are read as surrogates of
their own, U+DC80 to U+DCFF, and such a surrogate is written as its byte again.
Other surrogates have no bytes.

Different texts may so have the same bytes, if there are surrogates in one.
-/

namespace SalonBooking.Text

/-- A surrogate that stands for a byte which is no text. -/
def isByteEscape (n : Nat) : Bool :=
  0xDC80 ≤ n && n < 0xDD00

/-- Whether a text can be the name of a file. -/
def hasNameBytes (s : String) : Bool :=
  (codes s).all fun n => !isSurrogate n || isByteEscape n

/-- The bytes of a code point in a name. -/
def codeBytes (n : Nat) : List UInt8 :=
  if isByteEscape n then [UInt8.ofNat (n - 0xDC00)]
  else String.utf8EncodeChar (Char.ofNat n)

/-- The bytes of a name. -/
def nameBytes (s : String) : List UInt8 :=
  (codes s).flatMap codeBytes

example : nameBytes "あ" = nameBytes (ofCodes [0xDCE3, 0xDC81, 0xDC82]) := by decide +kernel

end SalonBooking.Text
