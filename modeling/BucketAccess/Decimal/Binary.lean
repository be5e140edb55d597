/-!
# Binary floating point

Numbers with a fraction or an exponent are held in the 64-bit binary format:
a sign, a whole mantissa below 2^53 and a power of two.  The values are exact
and can be compared by equality, and reading a decimal rounds it once, to the
nearest value, ties to the even mantissa.
-/

namespace BucketAccess.Decimal

/-- A value of the 64-bit binary format.  A finite value is
mantissa times 2^exponent; the exponent is at least -1074, and above it the
mantissa has its full 53 bits, so each value has one form. -/
inductive Binary where
  | finite (negative : Bool) (mantissa : Nat) (exponent : Int)
  | infinite (negative : Bool)
  | nan
deriving DecidableEq, Repr, Inhabited

/-- A power, or one if the exponent is negative. -/
def power (base : Nat) (exponent : Int) : Nat := base.pow exponent.toNat

/-- The whole part of the binary logarithm of a positive fraction. -/
def logFloor (numerator denominator : Nat) : Int :=
  let guess := (numerator.log2 : Int) - denominator.log2
  if numerator * power 2 (-guess) < denominator * power 2 guess then guess - 1
  else guess

/-- A fraction rounded to the nearest whole number, ties to the even one. -/
def roundHalfEven (numerator denominator : Nat) : Nat :=
  let quotient := numerator / denominator
  let twice := 2 * (numerator % denominator)
  if twice < denominator then quotient
  else if denominator < twice then quotient + 1
  else if quotient % 2 = 0 then quotient else quotient + 1

namespace Binary

/-- Zero of either sign. -/
def zero (negative : Bool) : Binary := .finite negative 0 (-1074)

/-- The value nearest to a fraction with a positive denominator. -/
def ofFraction (negative : Bool) (numerator denominator : Nat) : Binary :=
  if numerator = 0 then zero negative
  else
    let exponent := max (-1074) (logFloor numerator denominator - 52)
    let mantissa :=
      roundHalfEven (numerator * power 2 (-exponent)) (denominator * power 2 exponent)
    let (mantissa, exponent) :=
      if mantissa = power 2 53 then (power 2 52, exponent + 1) else (mantissa, exponent)
    if 971 < exponent then .infinite negative else .finite negative mantissa exponent

/-- The value nearest to digits times 10^exponent, where the digits are fewer
than `count` places long.  Exponents far out of range are settled without
computing the power. -/
def ofDecimal (negative : Bool) (digits count : Nat) (exponent : Int) : Binary :=
  if digits = 0 then zero negative
  else if 400 < exponent then .infinite negative
  else if exponent + count < -400 then zero negative
  else ofFraction negative (digits * power 10 exponent) (power 10 (-exponent))

/-- The value nearest to an integer. -/
def ofInt (number : Int) : Binary :=
  ofFraction (number < 0) number.natAbs 1

/-- A finite value as a fraction: sign, numerator and denominator. -/
def fraction? : Binary → Option (Bool × Nat × Nat)
  | .finite negative mantissa exponent =>
      some (negative, mantissa * power 2 exponent, power 2 (-exponent))
  | _ => none

/-- The numerator of a fraction under a sign. -/
def signed (negative : Bool) (number : Nat) : Int :=
  if negative then -(number : Int) else number

/-- The integer a value is, if it is one. -/
def toInt? (value : Binary) : Option Int := do
  let (negative, numerator, denominator) ← value.fraction?
  if numerator % denominator = 0 then some (signed negative (numerator / denominator))
  else none

/-- Equality of numbers: both zeros are equal, and no value equals NaN. -/
def sameNumber : Binary → Binary → Bool
  | .finite leftNegative left leftExponent, .finite rightNegative right rightExponent =>
      left = right && leftExponent = rightExponent &&
        (leftNegative = rightNegative || left = 0)
  | .infinite left, .infinite right => left = right
  | _, _ => false

end Binary

end BucketAccess.Decimal
