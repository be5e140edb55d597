import BucketAccess.Decimal.Shortest
import BucketAccess.Text.Numeral

/-!
# Layout of decimals

How a number with a fraction or an exponent is written in messages: with the
fewest digits that identify it, positionally while the leading digit stands
between the fourth place after the point and the sixteenth before it, otherwise
with a signed exponent of at least two digits.  A whole number keeps a final
`.0`, zero keeps its sign, and the special values are `nan`, `inf` and `-inf`.
-/

namespace BucketAccess.Decimal

/-- Exponents of the leading digit that are written positionally. -/
def positionalFrom : Int := -4
def positionalBelow : Int := 16

/-- Digits with the point after the first `point` of them, where `point` may
lie beyond either end. -/
def positional (digits : List Char) (point : Int) : List Char :=
  if point ≤ 0 then
    '0' :: '.' :: List.replicate (-point).toNat '0' ++ digits
  else if (digits.length : Int) ≤ point then
    digits ++ List.replicate (point.toNat - digits.length) '0' ++ ['.', '0']
  else
    digits.take point.toNat ++ '.' :: digits.drop point.toNat

/-- The leading digit, the other digits behind a point, and the exponent. -/
def scientific (digits : List Char) (exponent : Int) : List Char :=
  let fraction := match digits.drop 1 with
    | [] => []
    | rest => '.' :: rest
  let sign := if exponent < 0 then '-' else '+'
  digits.take 1 ++ fraction ++ 'e' :: sign :: Text.paddedDigits 2 exponent.natAbs

/-- A decimal without its sign. -/
def layout (dec : Dec) : List Char :=
  let digits := Text.digits dec.digits
  let point := digits.length + dec.exponent
  if positionalFrom ≤ point - 1 && point - 1 < positionalBelow then
    positional digits point
  else scientific digits (point - 1)

def withSign (negative : Bool) (text : String) : String :=
  if negative then "-" ++ text else text

/-- The text of a value in messages. -/
def Binary.text : Binary → String
  | .nan => "nan"
  | .infinite negative => withSign negative "inf"
  | .finite negative mantissa exponent =>
      withSign negative <|
        if mantissa = 0 then "0.0"
        else String.ofList (layout (shortest mantissa exponent))

example : (Binary.ofDecimal false 1 1 (-1)).text = "0.1" := by decide +kernel
example : (Binary.ofDecimal false 30000000000000004 17 (-17)).text =
    "0.30000000000000004" := by decide +kernel
example : (Binary.ofDecimal false 1 1 22).text = "1e+22" := by decide +kernel
example : (Binary.ofDecimal false 15 2 (-8)).text = "1.5e-07" := by decide +kernel
example : (Binary.ofDecimal false 5 1 (-324)).text = "5e-324" := by decide +kernel

end BucketAccess.Decimal
