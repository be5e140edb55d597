import BucketAccess.Decimal.Binary

/-!
# Shortest decimals

A finite binary value stands for an interval of reals, those that round to it.
The decimal selected for it is the shortest one in that interval, and of the
shortest the nearest.
-/

namespace BucketAccess.Decimal

/-- digits times 10^exponent. -/
structure Dec where
  digits : Nat
  exponent : Int
deriving DecidableEq, Repr

/-- Compares a * 10^i with b * 2^j exactly. -/
def compareScaled (a : Nat) (i : Int) (b : Nat) (j : Int) : Ordering :=
  compare (a * power 10 i * power 2 (-j)) (b * power 2 j * power 10 (-i))

/-- The decimal lies among the reals that round to mantissa * 2^exponent.  The
ends of the interval belong to it when the mantissa is even; below a power of
two the neighbour is only half as far away. -/
def readsBack (mantissa : Nat) (exponent : Int) (dec : Dec) : Bool :=
  let narrow := mantissa = power 2 52 && -1074 < exponent
  let low := if narrow then 4 * mantissa - 1 else 4 * mantissa - 2
  let fromLow := compareScaled dec.digits dec.exponent low (exponent - 2)
  let fromHigh := compareScaled dec.digits dec.exponent (4 * mantissa + 2) (exponent - 2)
  let closed := mantissa % 2 = 0
  (fromLow = .gt || (closed && fromLow = .eq)) &&
    (fromHigh = .lt || (closed && fromHigh = .eq))

/-- Moves trailing zeros of the digits into the exponent, at most `fuel`. -/
def Dec.stripZeros : Nat → Dec → Dec
  | 0, dec => dec
  | fuel + 1, dec =>
      if dec.digits ≠ 0 ∧ dec.digits % 10 = 0 then
        stripZeros fuel ⟨dec.digits / 10, dec.exponent + 1⟩
      else dec

/-- The least k with the value below 10^k, found from an estimate that is at
most two steps too low. -/
def decimalScale (numerator denominator : Nat) : Int :=
  let log := logFloor numerator denominator
  let estimate := Int.fdiv (log * 30103) 100000
  let below (k : Int) : Bool :=
    numerator * power 10 (-k) < denominator * power 10 k
  if below (estimate - 1) then estimate - 1
  else if below estimate then estimate
  else if below (estimate + 1) then estimate + 1
  else estimate + 2

/-- The nearest decimal with a given last place that reads back, if one does.
Only the two neighbours of the value on that grid can. -/
def onGrid? (mantissa : Nat) (exponent place : Int) : Option Dec :=
  let numerator := mantissa * power 2 exponent * power 10 (-place)
  let denominator := power 2 (-exponent) * power 10 place
  let floor := numerator / denominator
  let twice := 2 * (numerator % denominator)
  let roundsDown := twice < denominator || (twice = denominator && floor % 2 = 0)
  let neighbours : List Dec :=
    if roundsDown then [⟨floor, place⟩, ⟨floor + 1, place⟩]
    else [⟨floor + 1, place⟩, ⟨floor, place⟩]
  neighbours.find? (readsBack mantissa exponent)

/-- The shortest decimal that reads back as mantissa * 2^exponent.  Seventeen
digits always suffice; were none found, the exact value would be used. -/
def shortest (mantissa : Nat) (exponent : Int) : Dec :=
  let scale := decimalScale (mantissa * power 2 exponent) (power 2 (-exponent))
  let found := (List.range 17).findSome? fun (extra : Nat) =>
    onGrid? mantissa exponent (scale - 1 - extra)
  match found with
  | some dec => dec.stripZeros 20
  | none =>
      if exponent < 0 then ⟨mantissa * power 5 (-exponent), exponent⟩
      else ⟨mantissa * power 2 exponent, 0⟩

end BucketAccess.Decimal
