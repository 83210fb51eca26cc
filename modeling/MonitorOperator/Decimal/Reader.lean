import MonitorOperator.Decimal.Binary64
import MonitorOperator.Text.Blank
import MonitorOperator.Text.Digit

/-!
# Reading numbers

`readInteger` and `readReal?` read a number that a user wrote: digits of any script, single
underscores between digits, a sign, and blanks around it. An integer must not have too many digits.
`readReal?` also knows the words for infinity and for no number, in any case.
-/

namespace MonitorOperator.Decimal

/-- The character may stand around a number. Of the ASCII controls only tab to carriage return
may. -/
def isMargin (character : Char) : Bool :=
  Text.isBlank character && !(28 ≤ character.toNat && character.toNat ≤ 31)

/-- Further digits of a group, each after at most one underscore, and what follows them. -/
def moreDigits : List Char → List Nat × List Char
  | [] => ([], [])
  | '_' :: character :: rest =>
      match Text.digitValue? character with
      | some digit =>
          let (digits, after) := moreDigits rest
          (digit :: digits, after)
      | none => ([], '_' :: character :: rest)
  | character :: rest =>
      match Text.digitValue? character with
      | some digit =>
          let (digits, after) := moreDigits rest
          (digit :: digits, after)
      | none => ([], character :: rest)

/-- The digits that the characters begin with; none when they begin with something else. -/
def digitGroup : List Char → List Nat × List Char
  | [] => ([], [])
  | character :: rest =>
      if (Text.digitValue? character).isSome then moreDigits (character :: rest)
      else ([], character :: rest)

/-- Whether a sign that the characters begin with is negative, and what follows it. -/
def signOf : List Char → Bool × List Char
  | '-' :: rest => (true, rest)
  | '+' :: rest => (false, rest)
  | rest => (false, rest)

/-- A written integer: its sign and its digits. -/
structure WrittenInteger where
  negative : Bool
  digits : List Nat

/-- The value of a written integer. -/
def WrittenInteger.value (written : WrittenInteger) : Int :=
  let size : Int := (Text.ofDigits written.digits : Nat)
  if written.negative then -size else size

/-- The most digits that an integer may be written with. -/
def digitLimit : Nat := 4300

/-- What a text is, read as an integer. -/
inductive IntegerReading where
  | integer (value : Int)
  /-- It begins with more digits than an integer may have. -/
  | tooLong (count : Nat)
  | malformed
  deriving DecidableEq, Repr

/-- Read an integer. -/
def readInteger (text : String) : IntegerReading :=
  let (negative, rest) := signOf (Text.trimWhere isMargin text.toList)
  match digitGroup rest with
  | ([], _) => .malformed
  | (_, '_' :: _) => .malformed
  | (digits, after) =>
      if digitLimit < digits.length then .tooLong digits.length
      else if after.isEmpty then .integer (WrittenInteger.value ⟨negative, digits⟩)
      else .malformed

/-- Read an exponent that makes up all of the characters; no characters are the exponent zero. -/
def readExponent? : List Char → Option Int
  | [] => some 0
  | mark :: rest =>
      if mark = 'e' || mark = 'E' then
        let (negative, rest) := signOf rest
        match digitGroup rest with
        | ([], _) => none
        | (digits, []) => some (WrittenInteger.value ⟨negative, digits⟩)
        | _ => none
      else none

/-- Read a number without its sign. -/
def readSize? (negative : Bool) (characters : List Char) : Option Binary64 :=
  let (whole, rest) := digitGroup characters
  let (fraction, rest) :=
    match rest with
    | '.' :: after => digitGroup after
    | _ => ([], rest)
  if whole.isEmpty && fraction.isEmpty then none
  else
    (readExponent? rest).map fun exponent =>
      Binary64.ofDecimal negative (Text.ofDigits (whole ++ fraction)) (exponent - fraction.length)

/-- Read a number of binary64. -/
def readReal? (text : String) : Option Binary64 :=
  let (negative, rest) := signOf (Text.trimWhere isMargin text.toList)
  let word := String.ofList (rest.map Char.toLower)
  if word = "inf" || word = "infinity" then some (.infinite negative)
  else if word = "nan" then some .undefined
  else readSize? negative rest

end MonitorOperator.Decimal
