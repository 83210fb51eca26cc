/-!
# Decimal digits of all scripts

A character has a decimal value when it is one of ten consecutive code points that a script uses
for the digits zero to nine. `zeroes` lists the code points of the zeroes outside ASCII.
-/

namespace MonitorOperator.Text

/-- The code points of the digit zero in each script but ASCII, in increasing order. -/
def zeroes : List Nat :=
  [1632, 1776, 1984, 2406, 2534, 2662, 2790, 2918, 3046, 3174, 3302, 3430, 3558, 3664, 3792,
   3872, 4160, 4240, 6112, 6160, 6470, 6608, 6784, 6800, 6992, 7088, 7232, 7248, 42528, 43216,
   43264, 43472, 43504, 43600, 44016, 65296, 66720, 68912, 69734, 69872, 69942, 70096, 70384,
   70736, 70864, 71248, 71360, 71472, 71904, 72016, 72784, 73040, 73120, 92768, 92864, 93008,
   120782, 120792, 120802, 120812, 120822, 123200, 123632, 125264, 130032]

/-- The value of an ASCII digit. -/
def asciiDigitValue? (character : Char) : Option Nat :=
  if character.isDigit then some (character.toNat - 48) else none

/-- The decimal value of a digit of any script. -/
def digitValue? (character : Char) : Option Nat :=
  if character.isDigit then asciiDigitValue? character
  else
    (zeroes.find? fun start => start ≤ character.toNat && character.toNat < start + 10).map
      fun start => character.toNat - start

/-- The value of a hexadecimal digit in either case. -/
def hexDigitValue? (character : Char) : Option Nat :=
  let code := character.toNat
  if 48 ≤ code && code ≤ 57 then some (code - 48)
  else if 97 ≤ code && code ≤ 102 then some (code - 87)
  else if 65 ≤ code && code ≤ 70 then some (code - 55)
  else none

/-- The hexadecimal digit of a value below sixteen, in lower case. -/
def hexDigit (value : Nat) : Char :=
  if value < 10 then Char.ofNat (48 + value) else Char.ofNat (87 + value)

/-- The last `width` hexadecimal digits of a number, most significant first. -/
def hexDigits : (width : Nat) → (number : Nat) → List Char
  | 0, _ => []
  | width + 1, number => hexDigits width (number / 16) ++ [hexDigit (number % 16)]

/-- The number that a list of digit values spells in base ten, most significant first. -/
def ofDigits (digits : List Nat) : Nat :=
  digits.foldl (fun number digit => 10 * number + digit) 0

/-- The decimal digits of a number, most significant first. -/
def decimalDigits (number : Nat) : List Char :=
  Nat.toDigits 10 number

/-- A number in decimal notation, filled with zeroes on the left up to a width. -/
def padded (width number : Nat) : List Char :=
  let digits := decimalDigits number
  List.replicate (width - digits.length) '0' ++ digits

/-- An integer in decimal notation, with a minus sign when negative. -/
def ofInt (number : Int) : String :=
  if number < 0 then String.ofList ('-' :: decimalDigits number.natAbs)
  else String.ofList (decimalDigits number.natAbs)

/-- A digit of ASCII keeps its value among the digits of all scripts. -/
theorem digitValue?_of_isDigit {character : Char} (h : character.isDigit) :
    digitValue? character = asciiDigitValue? character := by
  simp [digitValue?, asciiDigitValue?, h]

end MonitorOperator.Text
