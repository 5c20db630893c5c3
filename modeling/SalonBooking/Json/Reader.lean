import SalonBooking.Json.Basic
import SalonBooking.Number.Decimal
import SalonBooking.Text.Encoding
import SalonBooking.Text.Percent

/-!
# Reading JSON

The grammar of JSON with these rules of its own.

* `NaN`, `Infinity` and `-Infinity` are numbers.  A number with a fraction or
  an exponent is rounded to a binary one, past the largest of which it is
  infinite; one without is an exact integer.
* Blank are the space, tab, line feed and carriage return.  A text does not
  start with a byte order mark.
* A string holds no control below the space.  Two escaped surrogates in the
  right order make one character; any other surrogate stands for itself.
* Of several members of one name the last value counts, at the place of the
  first.
* Integers have at most as many digits as the machine converts, and arrays and
  objects stand inside each other as deep as there is room.

Each function reads from the front of a list of characters and gives what it
read and what is left.  The first fault from the left decides the error.
`readValue` and its two companions spend one unit of fuel per call.  Of two calls
inside each other at least one takes a character off the text, so twice its
length is enough.
-/

namespace SalonBooking.Json

/-- Why a text is not read. -/
inductive ReadError where
  /-- The text does not follow the grammar. -/
  | malformed
  /-- The bytes are no text. -/
  | notText
  /-- An integer has too many digits. -/
  | integerTooLong
  /-- Arrays and objects stand too deep inside each other. -/
  | tooDeep
  deriving DecidableEq, Repr

/-- A blank between the tokens of a JSON text. -/
def isSpace (c : Char) : Bool :=
  c == ' ' || c == '\n' || c == '\r' || c == '\t'

/-- What is left after the blanks in front. -/
def skipSpace (text : List Char) : List Char :=
  text.dropWhile isSpace

/-! ## Strings -/

/-- The character that a backslash and a letter stand for. -/
def escaped? (c : Char) : Option Char :=
  if c == '"' || c == '\\' || c == '/' then some c
  else if c == 'b' then some (Char.ofNat 8)
  else if c == 'f' then some (Char.ofNat 12)
  else if c == 'n' then some '\n'
  else if c == 'r' then some '\r'
  else if c == 't' then some '\t'
  else none

/-- The number that four hexadecimal digits write. -/
def hexUnit? (a b c d : Char) : Option Nat := do
  let w ← Text.hexValue? a
  let x ← Text.hexValue? b
  let y ← Text.hexValue? c
  let z ← Text.hexValue? d
  some (((w * 16 + x) * 16 + y) * 16 + z)

/-- The characters of a string after an escaped unit, in reverse, and the unit if it is the first
half of a pair.  `high?` is the unit before if it was one, and the two characters that spell it
stand in front then. -/
def addUnit (read : List Char) (high? : Option Nat) (unit : Nat) : List Char × Option Nat :=
  match high?.filter fun _ => Text.isLowSurrogate unit with
  | some high => ((Text.spell (Text.joinSurrogates high unit)).reverse ++ read.drop 2, none)
  | none =>
    ((Text.spell unit).reverse ++ read, if Text.isHighSurrogate unit then some unit else none)

/-- The characters of a string up to its closing quote, in reverse after those already read, and
what follows the quote.  `high?` is the first half of a pair if it was the last thing read. -/
def readChars (read : List Char) (high? : Option Nat) : List Char → Option (List Char × List Char)
  | [] => none
  | '"' :: rest => some (read, rest)
  | '\\' :: 'u' :: a :: b :: c :: d :: rest =>
    match hexUnit? a b c d with
    | some unit =>
      let (read, high?) := addUnit read high? unit
      readChars read high? rest
    | none => none
  | '\\' :: c :: rest =>
    match escaped? c with
    | some character => readChars (character :: read) none rest
    | none => none
  | c :: rest => if c.toNat < 0x20 then none else readChars (c :: read) none rest

/-- A string whose opening quote has been read. -/
def readString (text : List Char) : Except ReadError (String × List Char) :=
  match readChars [] none text with
  | some (chars, rest) => .ok (String.ofList chars.reverse, rest)
  | none => .error .malformed

/-! ## Numbers -/

/-- The digits in front of the point: a zero stands alone. -/
def readWhole : List Char → List Char × List Char
  | '0' :: rest => (['0'], rest)
  | text => Numeral.splitDigits text

/-- A point with digits after it.  A point without digits is not part of the number. -/
def readFraction (text : List Char) : Option (List Char) × List Char :=
  match text with
  | '.' :: rest =>
    let (digits, afterDigits) := Numeral.splitDigits rest
    if digits.isEmpty then (none, text) else (some digits, afterDigits)
  | _ => (none, text)

/-- A number after its sign. -/
def readUnsigned (limits : Limits) (negative : Bool) (text : List Char) :
    Except ReadError (Json × List Char) :=
  let (whole, afterWhole) := readWhole text
  if whole.isEmpty then .error .malformed
  else
    let (fraction, afterFraction) := readFraction afterWhole
    let (exponent, rest) := Numeral.readExponent afterFraction
    match fraction, exponent with
    | none, none =>
      if limits.allows whole.length then
        let n : Int := Text.digitsValue whole
        .ok (.int (if negative then -n else n), rest)
      else .error .integerTooLong
    | _, _ =>
      let numeral : Numeral := ⟨whole, fraction.getD [], exponent.getD 0⟩
      .ok (.float (numeral.toDecimal negative).toBinary64, rest)

/-- A number or one of the words for a special one. -/
def readNumber (limits : Limits) : List Char → Except ReadError (Json × List Char)
  | 'N' :: 'a' :: 'N' :: rest => .ok (.float .notANumber, rest)
  | 'I' :: 'n' :: 'f' :: 'i' :: 'n' :: 'i' :: 't' :: 'y' :: rest =>
    .ok (.float (.infinite false), rest)
  | '-' :: 'I' :: 'n' :: 'f' :: 'i' :: 'n' :: 'i' :: 't' :: 'y' :: rest =>
    .ok (.float (.infinite true), rest)
  | '-' :: rest => readUnsigned limits true rest
  | text => readUnsigned limits false text

/-! ## Values -/

mutual

/-- A value that starts with the first character. -/
def readValue (limits : Limits) :
    (fuel room : Nat) → List Char → Except ReadError (Json × List Char)
  | 0, _, _ => .error .malformed
  | fuel + 1, room, text =>
    match text with
    | '"' :: rest => (readString rest).map fun (s, rest) => (.str s, rest)
    | '[' :: rest =>
      match room with
      | 0 => .error .tooDeep
      | room + 1 =>
        match skipSpace rest with
        | ']' :: rest => .ok (.arr [], rest)
        | rest => (readItems limits fuel room rest).map fun (vs, rest) => (.arr vs, rest)
    | '\x7b' :: rest =>
      match room with
      | 0 => .error .tooDeep
      | room + 1 =>
        match skipSpace rest with
        | '\x7d' :: rest => .ok (.obj [], rest)
        | rest =>
          (readMembers limits fuel room rest).map fun (ms, rest) => (.obj (Assoc.ofPairs ms), rest)
    | 'n' :: 'u' :: 'l' :: 'l' :: rest => .ok (.null, rest)
    | 't' :: 'r' :: 'u' :: 'e' :: rest => .ok (.bool true, rest)
    | 'f' :: 'a' :: 'l' :: 's' :: 'e' :: rest => .ok (.bool false, rest)
    | text => readNumber limits text

/-- The items of an array from the first one on, and the closing bracket. -/
def readItems (limits : Limits) :
    (fuel room : Nat) → List Char → Except ReadError (List Json × List Char)
  | 0, _, _ => .error .malformed
  | fuel + 1, room, text =>
    match readValue limits fuel room text with
    | .error e => .error e
    | .ok (v, rest) =>
      match skipSpace rest with
      | ']' :: rest => .ok ([v], rest)
      | ',' :: rest =>
        (readItems limits fuel room (skipSpace rest)).map fun (vs, rest) => (v :: vs, rest)
      | _ => .error .malformed

/-- The members of an object from the first one on, and the closing brace. -/
def readMembers (limits : Limits) : (fuel room : Nat) → List Char →
    Except ReadError (List (String × Json) × List Char)
  | 0, _, _ => .error .malformed
  | fuel + 1, room, text =>
    match text with
    | '"' :: rest =>
      match readString rest with
      | .error e => .error e
      | .ok (key, rest) =>
        match skipSpace rest with
        | ':' :: rest =>
          match readValue limits fuel room (skipSpace rest) with
          | .error e => .error e
          | .ok (v, rest) =>
            match skipSpace rest with
            | '\x7d' :: rest => .ok ([(key, v)], rest)
            | ',' :: rest =>
              (readMembers limits fuel room (skipSpace rest)).map fun (ms, rest) =>
                ((key, v) :: ms, rest)
            | _ => .error .malformed
        | _ => .error .malformed
    | _ => .error .malformed

end

/-- The value that a list of characters writes, blanks around it allowed. -/
def readAll (limits : Limits) (text : List Char) : Except ReadError Json :=
  match readValue limits (2 * text.length + 1) limits.nesting (skipSpace text) with
  | .ok (v, rest) => if (skipSpace rest).isEmpty then .ok v else .error .malformed
  | .error e => .error e

/-- The value that a text writes. -/
def read (limits : Limits) (s : String) : Except ReadError Json :=
  readAll limits s.toList

/-- The value that some bytes write, in whichever encoding they are. -/
def readBytes (limits : Limits) (bytes : ByteArray) : Except ReadError Json :=
  match Text.decodeDetected? bytes with
  | some text => read limits text
  | none => .error .notText

end SalonBooking.Json
