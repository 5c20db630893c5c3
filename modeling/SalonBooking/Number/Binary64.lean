/-!
# Binary floating point numbers of 64 bits

The values of the format, as exact numbers: a finite one is a sign and a
significand times a power of two, `significand * 2 ^ exponent` in units of
`2 ^ -1074`, the smallest positive value.  A finite value is stored in its one
canonical form, so two values are equal exactly when they are the same value
(the two zeros and their signs included).

`Binary64.round` gives the value nearest to a quotient of natural numbers, a
tie going to the even significand; a quotient past the largest finite value by
half a step or more is infinite.
-/

namespace SalonBooking

/-- A power of two. -/
def twoTo (n : Nat) : Nat := Nat.pow 2 n

/-- The canonical form of a finite value: at most 53 bits of significand, the
leading one set unless the exponent is the least. -/
def IsCanonical (significand exponent : Nat) : Prop :=
  significand < twoTo 53 ∧ exponent ≤ 2045 ∧ (exponent = 0 ∨ twoTo 52 ≤ significand)

instance (significand exponent : Nat) : Decidable (IsCanonical significand exponent) :=
  inferInstanceAs (Decidable (_ ∧ _ ∧ (_ ∨ _)))

/-- A binary floating point number of 64 bits. -/
inductive Binary64 where
  /-- `± significand * 2 ^ exponent * 2 ^ -1074`. -/
  | finite (negative : Bool) (significand exponent : Nat)
      (canonical : IsCanonical significand exponent)
  | infinite (negative : Bool)
  | notANumber
  deriving DecidableEq

namespace Binary64

/-- The quotient of two natural numbers rounded to the nearest, a tie to the even. -/
def roundQuotient (num den : Nat) : Nat :=
  let quotient := num / den
  let remainder := num % den
  if 2 * remainder < den ∨ (2 * remainder = den ∧ quotient % 2 = 0) then quotient
  else quotient + 1

/-- The zero of a sign. -/
def zero (negative : Bool) : Binary64 := .finite negative 0 0 (by decide)

/-- A finite value from its significand and exponent, infinite if the exponent is too large.
A significand of `2 ^ 53` is carried into the exponent. -/
def ofParts (negative : Bool) (significand exponent : Nat) : Binary64 :=
  let (significand, exponent) :=
    if significand = twoTo 53 then (twoTo 52, exponent + 1) else (significand, exponent)
  if h : IsCanonical significand exponent then .finite negative significand exponent h
  else .infinite negative

/-- The value nearest to `± num / den`, for a positive `den`. -/
def round (negative : Bool) (num den : Nat) : Binary64 :=
  let scaled := num * twoTo 1074
  let exponent := (scaled / den).log2 - 52
  ofParts negative (roundQuotient scaled (den * twoTo exponent)) exponent

/-- The value nearest to an integer. -/
def ofInt (n : Int) : Binary64 := round (n < 0) n.natAbs 1

/-- The integer part, toward zero; infinities and what is not a number have none. -/
def truncate? : Binary64 → Option Int
  | .finite negative significand exponent _ =>
    let magnitude : Int := ((significand * twoTo exponent / twoTo 1074 : Nat) : Int)
    some (if negative then -magnitude else magnitude)
  | .infinite _ => none
  | .notANumber => none

/-- Whether a value is neither infinite nor no number. -/
def isFinite : Binary64 → Bool
  | .finite .. => true
  | .infinite _ => false
  | .notANumber => false

/-- Whether a value has the sign of negative ones. -/
def isNegative : Binary64 → Bool
  | .finite negative .. => negative
  | .infinite negative => negative
  | .notANumber => false

/-- The magnitude of a finite value in units of the smallest positive one; zero for others. -/
def units : Binary64 → Nat
  | .finite _ significand exponent _ => significand * twoTo exponent
  | .infinite _ => 0
  | .notANumber => 0

/-- A finite value in units of the smallest positive one. -/
def signedUnits (x : Binary64) : Int :=
  if x.isNegative then -(x.units : Int) else x.units

/-- The two zeros. -/
def isZero : Binary64 → Bool
  | .finite _ significand _ _ => significand == 0
  | .infinite _ => false
  | .notANumber => false

end Binary64

end SalonBooking
