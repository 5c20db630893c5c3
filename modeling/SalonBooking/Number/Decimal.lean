import SalonBooking.Number.Binary64
import SalonBooking.Text.Blank
import SalonBooking.Text.DecimalDigit

/-!
# Decimal numerals

A numeral is digits, a fraction and an exponent as they are written; its value
is an exact decimal number, rounded once to a binary one.

`readFloat?` reads the text of a number that someone typed: blanks around it,
digits of any script, underscores between digits, an optional sign, a fraction
without digits on one of its sides, and the words for infinity and for what is
not a number in any mixture of capitals.

* `splitDigits_of_all`: splitting off digits stops where the digits stop.
-/

namespace SalonBooking

/-- The exact number `± coefficient * 10 ^ exponent`. -/
structure Decimal where
  negative : Bool
  coefficient : Nat
  exponent : Int
  deriving DecidableEq, Repr

/-- A power of ten. -/
def tenTo (n : Nat) : Nat := Nat.pow 10 n

namespace Decimal

/-- The nearest binary number.  Exponents far outside the range of the format
decide at once: with the coefficient not zero, the number lies above `10 ^ 400`
or below `10 ^ -400`. -/
def toBinary64 (d : Decimal) : Binary64 :=
  if d.coefficient = 0 then .zero d.negative
  else if 400 < d.exponent then .infinite d.negative
  else if d.exponent < -(401 + d.coefficient.log2 : Int) then .zero d.negative
  else if 0 ≤ d.exponent then .round d.negative (d.coefficient * tenTo d.exponent.toNat) 1
  else .round d.negative d.coefficient (tenTo (-d.exponent).toNat)

end Decimal

/-- A numeral as written: the digits before and after the point, and the exponent. -/
structure Numeral where
  whole : List Char
  fraction : List Char
  exponent : Int
  deriving DecidableEq, Repr

namespace Numeral

/-- The number that a numeral writes. -/
def toDecimal (negative : Bool) (n : Numeral) : Decimal where
  negative := negative
  coefficient := Text.digitsValue (n.whole ++ n.fraction)
  exponent := n.exponent - n.fraction.length

/-- The longest run of ASCII digits in front, and what follows it. -/
def splitDigits (text : List Char) : List Char × List Char :=
  (text.takeWhile Char.isDigit, text.dropWhile Char.isDigit)

/-- Digits in front of a text that begins with none are what is split off. -/
theorem splitDigits_of_all {digits rest : List Char} (hdigits : ∀ c ∈ digits, c.isDigit = true)
    (hrest : ∀ c ∈ rest.head?, c.isDigit = false) :
    splitDigits (digits ++ rest) = (digits, rest) := by
  induction digits with
  | nil =>
    cases rest with
    | nil => rfl
    | cons c rest => simp [splitDigits, hrest c (by simp)]
  | cons d digits ih =>
    have hd := hdigits d (by simp)
    have := ih fun c hc => hdigits c (by simp [hc])
    simp only [splitDigits, Prod.mk.injEq] at this
    simp [splitDigits, hd, this]

/-- A sign in front, as whether it is a minus, and what follows it. -/
def splitSign : List Char → Bool × List Char
  | '-' :: rest => (true, rest)
  | '+' :: rest => (false, rest)
  | text => (false, text)

/-- An exponent in front, and what follows it.  A letter without digits is no exponent. -/
def readExponent (text : List Char) : Option Int × List Char :=
  match text with
  | c :: rest =>
    if c == 'e' || c == 'E' then
      let (negative, afterSign) := splitSign rest
      let (digits, afterDigits) := splitDigits afterSign
      if digits.isEmpty then (none, text)
      else
        let n : Int := Text.digitsValue digits
        (some (if negative then -n else n), afterDigits)
    else (none, text)
  | [] => (none, [])

/-- The text of a typed number with ASCII digits and without its underscores; an underscore that
does not stand between two digits, and a character of another alphabet, spoil it. -/
def plainDigits : (afterDigit : Bool) → List Char → Option (List Char)
  | _, [] => some []
  | afterDigit, '_' :: rest =>
    match rest with
    | c :: _ =>
      if afterDigit && (Text.digitValue? c).isSome then plainDigits false rest else none
    | [] => none
  | _, c :: rest =>
    match Text.digitValue? c with
    | some n => (plainDigits true rest).map (Char.ofNat ('0'.toNat + n) :: ·)
    | none => if c.toNat < 127 then (plainDigits false rest).map (c :: ·) else none

/-- A number without sign: digits with at most one point among them, then an exponent. -/
def readUnsigned? (text : List Char) : Option Numeral :=
  let (whole, afterWhole) := splitDigits text
  let (fraction, afterFraction) :=
    match afterWhole with
    | '.' :: rest => splitDigits rest
    | rest => ([], rest)
  let (exponent, rest) := readExponent afterFraction
  if (whole ++ fraction).isEmpty || !rest.isEmpty then none
  else some ⟨whole, fraction, exponent.getD 0⟩

/-- A blank around a typed number.  The four separator controls are blank elsewhere, not here. -/
def isMargin (c : Char) : Bool :=
  Text.isBlank c && !(0x1C ≤ c.toNat && c.toNat ≤ 0x1F)

end Numeral

/-- The number that a text writes, rounded to the nearest binary one. -/
def readFloat? (s : String) : Option Binary64 := do
  let text ← Numeral.plainDigits false (Text.trimBy Numeral.isMargin s.toList)
  let (negative, unsigned) := Numeral.splitSign text
  let word := String.ofList (unsigned.map Char.toLower)
  if word == "inf" || word == "infinity" then some (.infinite negative)
  else if word == "nan" then some .notANumber
  else (Numeral.readUnsigned? unsigned).map fun n => (n.toDecimal negative).toBinary64

end SalonBooking
