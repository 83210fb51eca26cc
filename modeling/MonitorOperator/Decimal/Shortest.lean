import MonitorOperator.Decimal.Binary64
import MonitorOperator.Text.Digit

/-!
# Shortest decimals

The decimal of a finite `Binary64` is the one with the fewest digits among those that round back to
it, and of these the nearest to it. `shortest` looks for it on the decimal grids with one to
seventeen digits: a grid has a point that rounds back only if one of the two neighbours of the
exact value on it does.
-/

namespace MonitorOperator.Decimal

/-- A decimal numeral `digits * 10 ^ exponent`. -/
structure Numeral where
  digits : Nat
  exponent : Int
  deriving DecidableEq, Repr, Inhabited

/-- A positive quotient of natural numbers, and the quotients halfway to its two neighbours among
the binary numbers, all over one denominator. -/
structure Neighbourhood where
  value : Nat
  lower : Nat
  upper : Nat
  denominator : Nat
  /-- Both halfway points round to the value. -/
  closed : Bool

/-- What lies around `significand * 2 ^ exponent`. Below a power of two the neighbour is at half
the distance. -/
def Neighbourhood.of (significand : Nat) (exponent : Int) : Neighbourhood :=
  let narrow := significand == Binary64.leastFull && Binary64.leastExponent < exponent
  let quarter := exponent - 2
  let (value, denominator) := Binary64.scaled (4 * significand) quarter
  let unit := (Binary64.scaled 1 quarter).1
  { value
    lower := value - (if narrow then unit else 2 * unit)
    upper := value + 2 * unit
    denominator
    closed := significand % 2 == 0 }

/-- A point of the grid of multiples of `10 ^ exponent` over the neighbourhood's denominator, and
the factor that brings the neighbourhood to the same scale. -/
def gridScale (denominator : Nat) (exponent : Int) : Nat × Nat :=
  if exponent < 0 then (denominator, Nat.pow 10 exponent.natAbs)
  else (denominator * Nat.pow 10 exponent.natAbs, 1)

/-- The point `digits * 10 ^ exponent` rounds to the value. -/
def Neighbourhood.holds (around : Neighbourhood) (digits : Nat) (exponent : Int) : Bool :=
  let (unit, factor) := gridScale around.denominator exponent
  let point := digits * unit
  if around.closed then around.lower * factor ≤ point && point ≤ around.upper * factor
  else around.lower * factor < point && point < around.upper * factor

/-- The nearest point of a grid to the value that rounds to it, if there is one. -/
def Neighbourhood.nearest? (around : Neighbourhood) (exponent : Int) : Option Nat :=
  let (unit, factor) := gridScale around.denominator exponent
  let value := around.value * factor
  let below := value / unit
  let above := below + 1
  let toBelow := value - below * unit
  let toAbove := above * unit - value
  let first :=
    if toBelow < toAbove || (toBelow == toAbove && below % 2 == 0) then below else above
  let second := if first = below then above else below
  if around.holds first exponent then some first
  else if around.holds second exponent then some second
  else none

/-- The least power of ten that exceeds the value. -/
def Neighbourhood.magnitude (around : Neighbourhood) : Int :=
  let estimate : Int :=
    (Text.decimalDigits around.value).length - (Text.decimalDigits around.denominator).length
  let (unit, factor) := gridScale around.denominator estimate
  if around.value * factor < unit then estimate else estimate + 1

/-- The first hit on the grids from `count` digits on, trying at most `fuel` of them. -/
def Neighbourhood.search (around : Neighbourhood) (magnitude : Int) :
    (fuel count : Nat) → Option Numeral
  | 0, _ => none
  | fuel + 1, count =>
      let exponent := magnitude - count
      match around.nearest? exponent with
      | some digits => some ⟨digits, exponent⟩
      | none => around.search magnitude fuel (count + 1)

/-- A decimal without the zeroes that its digits end in, dropping at most `fuel` of them. -/
def Numeral.stripped : (fuel : Nat) → Numeral → Numeral
  | 0, decimal => decimal
  | fuel + 1, decimal =>
      if decimal.digits != 0 && decimal.digits % 10 == 0 then
        Numeral.stripped fuel ⟨decimal.digits / 10, decimal.exponent + 1⟩
      else decimal

/-- The shortest decimal that rounds to `significand * 2 ^ exponent`. -/
def shortest (significand : Nat) (exponent : Int) : Numeral :=
  if significand = 0 then ⟨0, 0⟩
  else
    let around := Neighbourhood.of significand exponent
    match around.search around.magnitude 17 1 with
    | some decimal => decimal.stripped 17
    | none => ⟨around.value, 0⟩

end MonitorOperator.Decimal
