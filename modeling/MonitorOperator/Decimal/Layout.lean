import MonitorOperator.Decimal.Shortest

/-!
# Layout of decimals

How the shortest decimal of a number is written: positionally within a range of magnitudes and with
an exponent outside it. A `Layout` holds the choices that formats differ in.
-/

namespace MonitorOperator.Decimal

/-- The choices that formats of numbers differ in. -/
structure Layout where
  /-- The least power of ten above which a number is written positionally. -/
  least : Int := -4
  /-- The power of ten from which on a number is written with an exponent. -/
  limit : Int := 16
  /-- The least number of digits in an exponent. -/
  exponentWidth : Nat := 2
  infinity : String
  undefined : String

/-- Numbers in documents. -/
def documentLayout : Layout := { infinity := "Infinity", undefined := "NaN" }

/-- Numbers in messages. -/
def messageLayout : Layout := { infinity := "inf", undefined := "nan" }

/-- The digits with a point after the first `position` of them; at least one digit stands on each
side of it. -/
def positional (digits : List Char) (position : Int) : List Char :=
  if position ≤ 0 then '0' :: '.' :: List.replicate position.natAbs '0' ++ digits
  else
    let whole := position.toNat
    let zeroes := List.replicate (whole - digits.length) '0'
    let fraction := digits.drop whole
    digits.take whole ++ zeroes ++ '.' :: (if fraction.isEmpty then ['0'] else fraction)

/-- The digits with a point after the first, and an exponent. -/
def scientific (layout : Layout) (digits : List Char) (exponent : Int) : List Char :=
  let fraction := digits.drop 1
  let sign := if exponent < 0 then '-' else '+'
  digits.take 1 ++ (if fraction.isEmpty then [] else '.' :: fraction) ++
    'e' :: sign :: Text.padded layout.exponentWidth exponent.natAbs

/-- A number as text. -/
def Layout.write (layout : Layout) : Binary64 → String
  | .undefined => layout.undefined
  | .infinite negative => if negative then "-" ++ layout.infinity else layout.infinity
  | .finite negative significand exponent =>
      let decimal := shortest significand exponent
      let digits := Text.decimalDigits decimal.digits
      let position := digits.length + decimal.exponent
      let size :=
        if significand = 0 then ['0', '.', '0']
        else if layout.least < position && position ≤ layout.limit then positional digits position
        else scientific layout digits (position - 1)
      String.ofList (if negative then '-' :: size else size)

end MonitorOperator.Decimal
