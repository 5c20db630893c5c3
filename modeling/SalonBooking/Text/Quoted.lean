import SalonBooking.Text.CodePoint
import SalonBooking.Text.Printable

/-!
# Quoted display of a text

How a text is shown inside an error message or a list: between quotes, with
what would not print spelled out.

The quote is `'`, unless the text holds a `'` and no `"`.  The quote in use and
the backslash are preceded by a backslash, line feed, carriage return and tab
have their letters, every other code point that would not print, a surrogate
among them, is written in two, four or eight hexadecimal digits, and the rest
stands as it is.
-/

namespace SalonBooking.Text

/-- A hexadecimal digit, in small letters. -/
def hexDigit (n : Nat) : Char :=
  Char.ofNat (if n < 10 then '0'.toNat + n else 'a'.toNat + (n - 10))

/-- The last `width` hexadecimal digits of a number, the most significant first. -/
def hexDigits : (width : Nat) → Nat → List Char
  | 0, _ => []
  | width + 1, n => hexDigits width (n / 16) ++ [hexDigit (n % 16)]

/-- A number with zeros in front of it up to a width. -/
def padLeft (width : Nat) (cs : List Char) : List Char :=
  List.replicate (width - cs.length) '0' ++ cs

/-- The quote that a text is shown between. -/
def quoteOf (cs : List Char) : Char :=
  if cs.contains '\'' && !cs.contains '"' then '"' else '\''

/-- One character of a quoted text. -/
def quotedChar (quote c : Char) : List Char :=
  if c == quote || c == '\\' then ['\\', c]
  else if c == '\n' then ['\\', 'n']
  else if c == '\r' then ['\\', 'r']
  else if c == '\t' then ['\\', 't']
  else if isPrintable c then [c]
  else if c.toNat < 0x100 then '\\' :: 'x' :: hexDigits 2 c.toNat
  else if c.toNat < 0x10000 then '\\' :: 'u' :: hexDigits 4 c.toNat
  else '\\' :: 'U' :: hexDigits 8 c.toNat

/-- One code point of a quoted text. -/
def quotedCode (quote : Char) (n : Nat) : List Char :=
  if isSurrogate n then '\\' :: 'u' :: hexDigits 4 n else quotedChar quote (Char.ofNat n)

/-- A text between quotes. -/
def quoted (s : String) : String :=
  let quote := quoteOf s.toList
  String.ofList (quote :: (codes s).flatMap (quotedCode quote) ++ [quote])

end SalonBooking.Text
