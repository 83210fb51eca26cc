import MonitorOperator.Text.Cut
import MonitorOperator.Text.Digit

/-!
# Addresses of hosts

The host of a URL may be an IPv4 address, an IPv6 address in brackets, or a name. A host of four
groups of digits must be a valid IPv4 address.
-/

namespace MonitorOperator.Http.Address

/-- The list splits into runs of digits with one character between each two; so many runs are
wanted. -/
def hasDigitRuns : (runs : Nat) → List Char → Bool
  | 0, _ => false
  | 1, characters => !characters.isEmpty && characters.all Char.isDigit
  | runs + 2, characters =>
      (List.range characters.length).any fun count =>
        let run := characters.take (count + 1)
        run.all Char.isDigit &&
          match characters.drop (count + 1) with
          | _ :: rest => hasDigitRuns (runs + 1) rest
          | [] => false

/-- The host has four runs of digits and must be an IPv4 address. -/
def looksLikeIpv4 (host : List Char) : Bool :=
  host.length ≤ 64 && (host.head?.any Char.isDigit) && hasDigitRuns 4 host

/-- The characters are a number below 256 without needless zeroes. -/
def isOctet (characters : List Char) : Bool :=
  !characters.isEmpty && characters.length ≤ 3 && characters.all Char.isDigit &&
    !(characters.head? = some '0' && characters.length != 1) &&
    Text.ofDigits (characters.filterMap Text.asciiDigitValue?) ≤ 255

/-- The characters are an IPv4 address. -/
def isIpv4 (characters : List Char) : Bool :=
  let parts := Text.splitOn '.' characters
  parts.length == 4 && parts.all isOctet

/-- What stands between the brackets around a host. -/
def bracketed? (host : List Char) : Option (List Char) :=
  match host with
  | '[' :: rest => if rest.getLast? = some ']' then some rest.dropLast else none
  | _ => none

/-- The characters are a group of an IPv6 address. -/
def isGroup (characters : List Char) : Bool :=
  !characters.isEmpty && characters.length ≤ 4 &&
    characters.all fun character => (Text.hexDigitValue? character).isSome

/-- The groups of an IPv6 address, with an IPv4 address at the end counting as two. -/
def groupCount? (parts : List (List Char)) : Option Nat :=
  if parts.all isGroup then some parts.length
  else if parts.dropLast.all isGroup && (parts.getLast?.any isIpv4) then some (parts.length + 1)
  else none

/-- The address without the zone after a percent sign, if the zone is well-formed. -/
def withoutZone? (characters : List Char) : Option (List Char) :=
  match Text.cutAt ['%'] characters with
  | none => some characters
  | some (address, zone) => if zone.isEmpty || zone.contains '%' then none else some address

/-- The characters are an IPv6 address. -/
def isIpv6 (characters : List Char) : Bool :=
  match withoutZone? characters with
  | none => false
  | some address =>
      match Text.cutAt "::".toList address with
      | none => groupCount? (Text.splitOn ':' address) == some 8
      | some (before, after) =>
          let count := fun part : List Char =>
            if part.isEmpty then some 0 else groupCount? (Text.splitOn ':' part)
          match count before, count after with
          | some left, some right => left + right ≤ 7
          | _, _ => false

/-- The host that an authority begins with, and the rest. Brackets are kept around what they
enclose. -/
def splitHost (characters : List Char) : List Char × List Char :=
  let plain := (characters.takeWhile (· != ':'), characters.dropWhile (· != ':'))
  match characters with
  | '[' :: _ =>
      let backwards := characters.reverse
      match backwards.dropWhile (· != ']') with
      | [] => plain
      | host => (host.reverse, (backwards.takeWhile (· != ']')).reverse)
  | _ => plain

end MonitorOperator.Http.Address
