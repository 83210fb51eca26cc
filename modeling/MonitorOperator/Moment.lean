import MonitorOperator.Fault

/-!
# Moments

A moment is a date and time of the Gregorian calendar with an offset from UTC. `sinceStart` counts
its microseconds from the start of the calendar and `instant` its seconds, `toUtc` moves it to UTC,
`timestamp` writes it for a manifest and `ofTimestamp` reads it back.
-/

namespace MonitorOperator

/-- A day of the Gregorian calendar. -/
structure Date where
  year : Nat
  month : Nat
  day : Nat
  deriving DecidableEq, Repr, Inhabited

namespace Date

/-- The year has a leap day. -/
def isLeap (year : Nat) : Bool :=
  year % 4 == 0 && (year % 100 != 0 || year % 400 == 0)

/-- The number of days in a month. -/
def daysInMonth (year month : Nat) : Nat :=
  match month with
  | 2 => if isLeap year then 29 else 28
  | 4 | 6 | 9 | 11 => 30
  | _ => 31

/-- The number of days before a year, from the year one on. -/
def daysBeforeYear (year : Nat) : Nat :=
  let before := year - 1
  365 * before + before / 4 - before / 100 + before / 400

/-- The number of days before a month in its year. -/
def daysBeforeMonth (year : Nat) : (month : Nat) → Nat
  | 0 => 0
  | 1 => 0
  | month + 2 => daysBeforeMonth year (month + 1) + daysInMonth year (month + 1)

/-- The number of days before a date, from the start of the calendar. -/
def ordinal (date : Date) : Nat :=
  daysBeforeYear date.year + daysBeforeMonth date.year date.month + (date.day - 1)

/-- The year of an ordinal, and the number of days before the date in it. -/
def yearOf (ordinal : Nat) : Nat × Nat :=
  let cycles := ordinal / 146097
  let rest := ordinal % 146097
  let centuries := min (rest / 36524) 3
  let rest := rest - centuries * 36524
  let quads := rest / 1461
  let rest := rest % 1461
  let years := min (rest / 365) 3
  (400 * cycles + 100 * centuries + 4 * quads + years + 1, rest - years * 365)

/-- The month and day of a number of days into a year, looking at `fuel` months from `month` on. -/
def monthOf (year : Nat) : (fuel month rest : Nat) → Nat × Nat
  | 0, month, rest => (month, rest + 1)
  | fuel + 1, month, rest =>
      let length := daysInMonth year month
      if rest < length then (month, rest + 1) else monthOf year fuel (month + 1) (rest - length)

/-- The date that a number of days comes before. -/
def ofOrdinal (ordinal : Nat) : Date :=
  let (year, rest) := yearOf ordinal
  let (month, day) := monthOf year 11 1 rest
  ⟨year, month, day⟩

/-- The number of days in the calendar, which ends with the year 9999. -/
def calendarLength : Nat := 3652059

end Date

/-- A time of a day at a place whose clocks are ahead of UTC by an offset. -/
structure Moment where
  date : Date
  hour : Nat
  minute : Nat
  second : Nat
  microsecond : Nat
  /-- The offset from UTC in whole minutes. -/
  offset : Int
  /-- What the offset has beyond its minutes, in microseconds. -/
  offsetExcess : Nat := 0
  deriving DecidableEq, Repr, Inhabited

namespace Moment

/-- The seconds since midnight on the moment's own clock. -/
def secondOfDay (moment : Moment) : Nat :=
  moment.hour * 3600 + moment.minute * 60 + moment.second

/-- The offset from UTC in microseconds. -/
def fullOffset (moment : Moment) : Int :=
  moment.offset * 60000000 + moment.offsetExcess

/-- The microseconds since the start of the calendar in UTC. -/
def sinceStart (moment : Moment) : Int :=
  ((moment.date.ordinal * 86400 + moment.secondOfDay) * 1000000 + moment.microsecond : Nat) -
    moment.fullOffset

/-- The whole seconds since the start of the calendar in UTC. -/
def instant (moment : Moment) : Int :=
  moment.sinceStart / 1000000

/-- The moment in UTC that a number of seconds comes before. -/
def ofInstant (instant : Nat) (microsecond : Nat) : Moment :=
  let seconds := instant % 86400
  { date := Date.ofOrdinal (instant / 86400)
    hour := seconds / 3600
    minute := seconds / 60 % 60
    second := seconds % 60
    microsecond
    offset := 0 }

/-- The same moment in UTC, if it lies in the calendar. -/
def toUtc (moment : Moment) : Except Fault Moment :=
  let instant := moment.instant
  if instant < 0 || (Date.calendarLength * 86400 : Nat) ≤ instant then
    .error (.lower .outOfRange)
  else .ok (ofInstant instant.toNat (moment.sinceStart % 1000000).toNat)

/-- The month, day and time of a moment as a timestamp has them, after the year. -/
def afterYear (moment : Moment) : List Char :=
  '-' :: Text.padded 2 moment.date.month ++ '-' :: Text.padded 2 moment.date.day ++
    'T' :: Text.padded 2 moment.hour ++ ':' :: Text.padded 2 moment.minute ++
    ':' :: Text.padded 2 moment.second

/-- A moment in UTC to the second. The year is not padded. -/
def timestamp (moment : Moment) : Except Fault String := do
  let utc ← moment.toUtc
  pure (String.ofList (Text.decimalDigits utc.date.year ++ utc.afterYear ++ ['Z']))

/-- The sign, hours and minutes of an offset in microseconds, and its seconds and their fraction if
it has any. -/
def offsetText (offset : Int) : List Char :=
  let minutes := offset.natAbs / 60000000
  let seconds := offset.natAbs / 1000000 % 60
  let fraction := offset.natAbs % 1000000
  let beyond :=
    if fraction = 0 then if seconds = 0 then [] else ':' :: Text.padded 2 seconds
    else ':' :: Text.padded 2 seconds ++ '.' :: Text.padded 6 fraction
  (if offset < 0 then '-' else '+') :: Text.padded 2 (minutes / 60) ++
    ':' :: Text.padded 2 (minutes % 60) ++ beyond

/-- A moment on its own clock, to the microsecond if it has any. -/
def isoText (moment : Moment) : String :=
  let fraction := if moment.microsecond = 0 then [] else '.' :: Text.padded 6 moment.microsecond
  String.ofList (Text.padded 4 moment.date.year ++ moment.afterYear ++ fraction ++
    offsetText moment.fullOffset)

/-- The values of decimal digits of any script. -/
def digitValues? (characters : List Char) : Option (List Nat) :=
  characters.mapM Text.digitValue?

/-- A month of one or two ASCII digits. -/
def readMonth? : List Char → Option Nat
  | ['1', digit] => (Text.asciiDigitValue? digit).bind fun value =>
      if value ≤ 2 then some (10 + value) else none
  | ['0', digit] => (Text.asciiDigitValue? digit).bind fun value =>
      if value = 0 then none else some value
  | [digit] => (Text.asciiDigitValue? digit).bind fun value =>
      if value = 0 then none else some value
  | _ => none

/-- A day of one digit, two digits, or a space and a digit. Only the last digit of a day from ten to
twenty-nine may be of any script. -/
def readDay? : List Char → Option Nat
  | ['3', digit] => (Text.asciiDigitValue? digit).bind fun value =>
      if value ≤ 1 then some (30 + value) else none
  | ['1', digit] => (Text.digitValue? digit).map (10 + ·)
  | ['2', digit] => (Text.digitValue? digit).map (20 + ·)
  | ['0', digit] => (Text.asciiDigitValue? digit).bind fun value =>
      if value = 0 then none else some value
  | [' ', digit] => (Text.asciiDigitValue? digit).bind fun value =>
      if value = 0 then none else some value
  | [digit] => (Text.asciiDigitValue? digit).bind fun value =>
      if value = 0 then none else some value
  | _ => none

/-- An hour of one or two digits. -/
def readHour? : List Char → Option Nat
  | ['2', digit] => (Text.asciiDigitValue? digit).bind fun value =>
      if value ≤ 3 then some (20 + value) else none
  | ['1', digit] => (Text.digitValue? digit).map (10 + ·)
  | ['0', digit] => Text.digitValue? digit
  | [digit] => Text.digitValue? digit
  | _ => none

/-- A minute of one or two digits. -/
def readMinute? : List Char → Option Nat
  | [tens, digit] => do
      let tens ← Text.asciiDigitValue? tens
      let value ← Text.digitValue? digit
      if tens ≤ 5 then some (10 * tens + value) else none
  | [digit] => Text.digitValue? digit
  | _ => none

/-- A second of one or two digits, leap seconds included. -/
def readSecond? : List Char → Option Nat
  | ['6', digit] => (Text.asciiDigitValue? digit).bind fun value =>
      if value ≤ 1 then some (60 + value) else none
  | characters => readMinute? characters

/-- A year of four digits, and what follows it. -/
def readYear? : List Char → Option (Nat × List Char)
  | first :: second :: third :: fourth :: rest =>
      (digitValues? [first, second, third, fourth]).map fun digits => (Text.ofDigits digits, rest)
  | _ => none

/-- The part of a timestamp up to a mark in either case, read by a rule, and what follows it. -/
def readPart? (read : List Char → Option Nat) (mark : Char) (characters : List Char) :
    Option (Nat × List Char) := do
  let isMark := fun character : Char => character == mark || character.toUpper == mark
  let part := characters.takeWhile fun character => !isMark character
  match characters.dropWhile fun character => !isMark character with
  | [] => none
  | _ :: rest => (read part).map (·, rest)

/-- The moment whose parts a text begins with, and what follows it. The parts are checked one by
one only. -/
def readParts? (characters : List Char) : Option (Moment × List Char) := do
  let (year, rest) ← readYear? characters
  let rest ← match rest with
    | '-' :: rest => some rest
    | _ => none
  let (month, rest) ← readPart? readMonth? '-' rest
  let (day, rest) ← readPart? readDay? 'T' rest
  let (hour, rest) ← readPart? readHour? ':' rest
  let (minute, rest) ← readPart? readMinute? ':' rest
  let (second, rest) ← readPart? readSecond? 'Z' rest
  let date : Date := ⟨year, month, day⟩
  pure ({ date, hour, minute, second, microsecond := 0, offset := 0 }, rest)

/-- The moment in UTC that a timestamp stands for. -/
def ofTimestamp (text : String) : Except ValueProblem Moment :=
  match readParts? text.toList with
  | none => .error (.notTimestamp text)
  | some (moment, rest) =>
      if !rest.isEmpty then .error (.afterTimestamp (String.ofList rest))
      else if moment.date.year = 0 then .error (.yearOutOfCalendar 0)
      else if Date.daysInMonth moment.date.year moment.date.month < moment.date.day then
        .error .dayOutOfMonth
      else if 60 ≤ moment.second then .error .secondOutOfMinute
      else .ok moment

end Moment

end MonitorOperator
