/-!
# Binary numbers of 64 bits

A `Binary64` is a number with a significand of 53 bits and a bounded exponent, an infinity, or no
number at all. `ofRatio` and `ofDecimal` round an exact quotient to the nearest such number, a half
going to the even significand; comparisons are those of the exact values.
-/

namespace MonitorOperator.Decimal

/-- A number of the binary64 format. A finite one is `± significand * 2 ^ exponent`. -/
inductive Binary64 where
  | finite (negative : Bool) (significand : Nat) (exponent : Int)
  | infinite (negative : Bool)
  | undefined
  deriving DecidableEq, Repr, Inhabited

namespace Binary64

/-- The exponent of the smallest positive number. -/
def leastExponent : Int := -1074

/-- The largest exponent of a significand of full width. -/
def greatestExponent : Int := 971

/-- The least significand of full width, which is 53 bits. -/
def leastFull : Nat := 1 <<< 52

/-- `number * 2 ^ exponent` as a quotient of natural numbers. -/
def scaled (number : Nat) (exponent : Int) : Nat × Nat :=
  if exponent < 0 then (number, 1 <<< exponent.natAbs) else (number <<< exponent.natAbs, 1)

/-- The natural number nearest to a quotient, a half going to the even one. -/
def roundedQuotient (numerator denominator : Nat) : Nat :=
  let quotient := numerator / denominator
  let twice := 2 * (numerator % denominator)
  if twice < denominator then quotient
  else if denominator < twice then quotient + 1
  else quotient + quotient % 2

/-- The numerator and denominator of a quotient divided by `2 ^ exponent`. -/
def divided (numerator denominator : Nat) (exponent : Int) : Nat × Nat :=
  if exponent < 0 then (numerator <<< exponent.natAbs, denominator)
  else (numerator, denominator <<< exponent.natAbs)

/-- The exponent that gives the quotient a significand of 53 bits, or the least exponent. -/
def exponentOf (numerator denominator : Nat) : Int :=
  let estimate : Int := (numerator.log2 : Int) - (denominator.log2 : Int) - 53
  let (above, below) := divided numerator denominator estimate
  let exact := if 2 * leastFull ≤ above / below then estimate + 1 else estimate
  max exact leastExponent

/-- The nearest number to a quotient of natural numbers. -/
def ofRatio (negative : Bool) (numerator denominator : Nat) : Binary64 :=
  if numerator = 0 then .finite negative 0 leastExponent
  else
    let exponent := exponentOf numerator denominator
    let (above, below) := divided numerator denominator exponent
    let significand := roundedQuotient above below
    let (significand, exponent) :=
      if significand = 2 * leastFull then (leastFull, exponent + 1) else (significand, exponent)
    if greatestExponent < exponent then .infinite negative
    else .finite negative significand exponent

/-- The nearest number to `digits * 10 ^ exponent`. An exponent beyond the range of the format is
decided by the number of digits, before any power is computed. -/
def ofDecimal (negative : Bool) (digits : Nat) (exponent : Int) : Binary64 :=
  let magnitude : Int := (Nat.toDigits 10 digits).length + exponent
  if digits = 0 || magnitude < -330 then .finite negative 0 leastExponent
  else if 320 < magnitude then .infinite negative
  else if exponent < 0 then ofRatio negative digits (Nat.pow 10 exponent.natAbs)
  else ofRatio negative (digits * Nat.pow 10 exponent.natAbs) 1

/-- The number is a zero of either sign. -/
def isZero : Binary64 → Bool
  | finite _ significand _ => significand == 0
  | _ => false

/-- The significand, with its sign, for a smaller exponent. -/
def signedAt (negative : Bool) (significand : Nat) (exponent smaller : Int) : Int :=
  let size : Int := (significand <<< (exponent - smaller).toNat : Nat)
  if negative then -size else size

/-- The first number is less than the second; never true of what is no number. -/
def less : Binary64 → Binary64 → Bool
  | finite negative significand exponent, finite negative' significand' exponent' =>
      let smaller := min exponent exponent'
      signedAt negative significand exponent smaller <
        signedAt negative' significand' exponent' smaller
  | finite .., infinite negative => !negative
  | infinite negative, finite .. => negative
  | infinite negative, infinite negative' => negative && !negative'
  | undefined, _ => false
  | _, undefined => false

/-- The two numbers have one value; zeroes of either sign do. What is no number agrees with
itself here. -/
def agrees : Binary64 → Binary64 → Bool
  | finite negative significand exponent, finite negative' significand' exponent' =>
      let smaller := min exponent exponent'
      signedAt negative significand exponent smaller ==
        signedAt negative' significand' exponent' smaller
  | infinite negative, infinite negative' => negative == negative'
  | undefined, undefined => true
  | _, _ => false

/-- The integer as an exact number, with a significand of any width. -/
def ofInt (number : Int) : Binary64 :=
  .finite (number < 0) number.natAbs 0

/-- The number without its fraction, if it is finite. -/
def truncate? : Binary64 → Option Int
  | finite negative significand exponent =>
      let (above, below) := scaled significand exponent
      let size : Int := (above / below : Nat)
      some (if negative then -size else size)
  | _ => none

end Binary64

end MonitorOperator.Decimal
