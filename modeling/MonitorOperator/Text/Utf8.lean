/-!
# UTF-8

`encode` writes characters as bytes and `decode` reads bytes as characters, one result for each
character or for each longest start of one that breaks off (`none`). `read?` accepts only well-formed
bytes, and `readLossy` puts the replacement character where they are malformed.
-/

namespace MonitorOperator.Text.Utf8

/-- A sequence of bytes. -/
abbrev Bytes := List UInt8

/-- The character that stands for what cannot be read. -/
def replacement : Char := Char.ofNat 0xFFFD

/-- The bytes of a text. -/
def encode (text : String) : Bytes :=
  text.toList.flatMap String.utf8EncodeChar

/-- The byte continues a character that an earlier byte began. -/
def isContinuation (byte : UInt8) : Bool :=
  0x80 ≤ byte && byte ≤ 0xBF

/-- The six bits that a continuation byte carries. -/
def payload (byte : UInt8) : Nat :=
  byte.toNat % 64

/-- The second byte may follow the first one of three. Surrogates are let through only on demand. -/
def allowsSecondOfThree (surrogates : Bool) (first second : UInt8) : Bool :=
  if first = 0xE0 then 0xA0 ≤ second && second ≤ 0xBF
  else if first = 0xED then 0x80 ≤ second && second ≤ (if surrogates then 0xBF else 0x9F)
  else isContinuation second

/-- The second byte may follow the first one of four. -/
def allowsSecondOfFour (first second : UInt8) : Bool :=
  if first = 0xF0 then 0x90 ≤ second && second ≤ 0xBF
  else if first = 0xF4 then 0x80 ≤ second && second ≤ 0x8F
  else isContinuation second

/-- The character of a code point; a surrogate has none of its own and reads as the replacement. -/
def character (code : Nat) : Char :=
  if code.isValidChar then Char.ofNat code else replacement

/-- Read bytes as characters, with `none` for each malformed part. -/
def decode (surrogates : Bool) : Bytes → List (Option Char)
  | [] => []
  | first :: rest =>
      if first < 0x80 then some (character first.toNat) :: decode surrogates rest
      else if 0xC2 ≤ first && first ≤ 0xDF then
        match rest with
        | [] => [none]
        | second :: after =>
            if isContinuation second then
              some (character ((first.toNat % 32) * 64 + payload second)) ::
                decode surrogates after
            else none :: decode surrogates (second :: after)
      else if 0xE0 ≤ first && first ≤ 0xEF then
        match rest with
        | [] => [none]
        | [second] =>
            if allowsSecondOfThree surrogates first second then [none]
            else none :: decode surrogates [second]
        | second :: third :: after =>
            if allowsSecondOfThree surrogates first second then
              if isContinuation third then
                some (character ((first.toNat % 16) * 4096 + payload second * 64 + payload third)) ::
                  decode surrogates after
              else none :: decode surrogates (third :: after)
            else none :: decode surrogates (second :: third :: after)
      else if 0xF0 ≤ first && first ≤ 0xF4 then
        match rest with
        | [] => [none]
        | [second] =>
            if allowsSecondOfFour first second then [none] else none :: decode surrogates [second]
        | [second, third] =>
            if allowsSecondOfFour first second then
              if isContinuation third then [none] else none :: decode surrogates [third]
            else none :: decode surrogates [second, third]
        | second :: third :: fourth :: after =>
            if allowsSecondOfFour first second then
              if isContinuation third then
                if isContinuation fourth then
                  some (character ((first.toNat % 8) * 262144 + payload second * 4096 +
                    payload third * 64 + payload fourth)) :: decode surrogates after
                else none :: decode surrogates (fourth :: after)
              else none :: decode surrogates (third :: fourth :: after)
            else none :: decode surrogates (second :: third :: fourth :: after)
      else none :: decode surrogates rest

/-- All values, if none is missing. -/
def allPresent {α : Type} : List (Option α) → Option (List α)
  | [] => some []
  | none :: _ => none
  | some value :: values => (allPresent values).map (value :: ·)

/-- The text of well-formed bytes. -/
def read? (bytes : Bytes) : Option String :=
  (allPresent (decode false bytes)).map String.ofList

/-- The text of bytes, with the replacement character for each malformed part. -/
def readLossy (bytes : Bytes) : String :=
  String.ofList ((decode false bytes).map (·.getD replacement))

end MonitorOperator.Text.Utf8
