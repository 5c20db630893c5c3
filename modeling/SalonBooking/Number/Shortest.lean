import SalonBooking.Number.Decimal

/-!
# Shortest decimal text of a binary number

A finite number is written with the fewest digits that read back as the same
number; of two such texts of one length the nearer one is taken, and of two
equally near ones the one with the even last digit.

`shortest` finds the digits by looking at the grids of 1 to 17 digits in turn:
if any point of a grid reads back, one of the two neighbours of the value on
that grid does.  `FloatLayout` says how the digits are laid out.
-/

namespace SalonBooking.Binary64

/-- Whether `num / den < 10 ^ k`. -/
def belowPower (num den : Nat) (k : Int) : Bool :=
  if 0 ≤ k then num < den * tenTo k.toNat else num * tenTo (-k).toNat < den

/-- The least `k` from -323 on with `num / den < 10 ^ k`, at most 309. -/
def decimalOrder (num den : Nat) : Int :=
  let isAbove (i : Nat) : Bool := belowPower num den ((i : Int) - 323)
  let index := ((List.range 632).find? isAbove).getD 632
  (index : Int) - 323

/-- The quotient `num / den` in units of `10 ^ k`, again as a quotient. -/
def inUnits (num den : Nat) (k : Int) : Nat × Nat :=
  if 0 ≤ k then (num, den * tenTo k.toNat) else (num * tenTo (-k).toNat, den)

/-- Of the two neighbours of `num / den` on the grid of `10 ^ k`, the nearest one that `accepts`. -/
def nearestOn (accepts : Nat → Bool) (num den : Nat) (k : Int) : Option Nat :=
  let (a, b) := inUnits num den k
  let low := a / b
  let candidates := if roundQuotient a b = low then [low, low + 1] else [low + 1, low]
  candidates.find? accepts

/-- The shortest decimal number that reads back as a positive finite value. -/
def shortest (significand exponent : Nat) (canonical : IsCanonical significand exponent) :
    Decimal :=
  let num := significand * twoTo exponent
  let den := twoTo 1074
  let order := decimalOrder num den
  let readsBack (k : Int) (c : Nat) : Bool :=
    (Decimal.mk false c k).toBinary64 == .finite false significand exponent canonical
  let found := (List.range 17).findSome? fun (i : Nat) =>
    let k := order - ((i : Int) + 1)
    (nearestOn (readsBack k) num den k).map fun c => Decimal.mk false c k
  found.getD ⟨false, 0, 0⟩

/-- How the digits of a number are laid out. -/
structure FloatLayout where
  /-- The least decimal exponent that is written positionally. -/
  leastPositional : Int
  /-- The least decimal exponent above it that is not. -/
  endPositional : Int
  /-- The least number of exponent digits. -/
  exponentDigits : Nat
  /-- What follows the digits of a whole number written positionally. -/
  wholeSuffix : List Char

/-- Numbers from `0.0001` up to below `10 ^ 16` are written positionally, whole ones with `.0`;
an exponent has a sign and at least two digits. -/
def standardLayout : FloatLayout := ⟨-4, 16, 2, ['.', '0']⟩

/-- Digits with no zeros at the end, and the place of the point counted from before the first. -/
def significantDigits (d : Decimal) : List Char × Int :=
  let digits := (toString d.coefficient).toList
  (Text.trimRightBy (· == '0') digits, d.exponent + digits.length)

/-- The text of a positive decimal number. -/
def FloatLayout.write (layout : FloatLayout) (d : Decimal) : List Char :=
  let (digits, point) := significantDigits d
  let exponent := point - 1
  if layout.leastPositional ≤ exponent ∧ exponent < layout.endPositional then
    if point ≤ 0 then ['0', '.'] ++ List.replicate (-point).toNat '0' ++ digits
    else
      let n := point.toNat
      if digits.length ≤ n then
        digits ++ List.replicate (n - digits.length) '0' ++ layout.wholeSuffix
      else digits.take n ++ '.' :: digits.drop n
  else
    let mantissa := match digits with
      | first :: second :: rest => first :: '.' :: second :: rest
      | short => short
    let magnitude := (toString exponent.natAbs).toList
    mantissa ++ ['e', if exponent < 0 then '-' else '+'] ++
      List.replicate (layout.exponentDigits - magnitude.length) '0' ++ magnitude

/-- The shortest text of a number, and the texts of the special values. -/
def display : Binary64 → List Char
  | .finite negative significand exponent canonical =>
    (if negative then ['-'] else []) ++
      if significand = 0 then ['0', '.', '0']
      else standardLayout.write (shortest significand exponent canonical)
  | .infinite negative => (if negative then ['-'] else []) ++ ['i', 'n', 'f']
  | .notANumber => ['n', 'a', 'n']

end SalonBooking.Binary64
