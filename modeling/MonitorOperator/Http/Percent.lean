import MonitorOperator.Text.Cut
import MonitorOperator.Text.Digit
import MonitorOperator.Text.Utf8

/-!
# Percent encoding

`encode` writes the characters that a part of a URL may not hold by the bytes of their UTF-8 form,
leaving escapes that are there already; `decode` reads all escapes. `encodePairs` and `decodePairs`
do so for the names and values of a query.
-/

namespace MonitorOperator.Http.Percent

open Text.Utf8 (Bytes)

/-- The character may stand anywhere in a URL. -/
def isUnreserved (character : Char) : Bool :=
  character.isAlphanum || character == '-' || character == '.' || character == '_' ||
    character == '~'

/-- A hexadecimal digit in upper case. -/
def upperHexDigit (value : Nat) : Char :=
  (Text.hexDigit value).toUpper

/-- The escape of a byte. -/
def escape (byte : UInt8) : List Char :=
  ['%', upperHexDigit (byte.toNat / 16), upperHexDigit (byte.toNat % 16)]

/-- The escapes of a character's bytes. -/
def escapeCharacter (character : Char) : List Char :=
  (String.utf8EncodeChar character).flatMap escape

/-- The characters with those escaped that are neither unreserved nor allowed here. -/
def encode (allowed : Char → Bool) : List Char → List Char
  | '%' :: high :: low :: rest =>
      if (Text.hexDigitValue? high).isSome && (Text.hexDigitValue? low).isSome then
        '%' :: high :: low :: encode allowed rest
      else
        (if allowed '%' then ['%'] else escapeCharacter '%') ++ encode allowed (high :: low :: rest)
  | character :: rest =>
      (if isUnreserved character || allowed character then [character]
        else escapeCharacter character) ++ encode allowed rest
  | [] => []

/-- The bytes that characters with escapes stand for. -/
def toBytes : List Char → Bytes
  | '%' :: high :: low :: rest =>
      match Text.hexDigitValue? high, Text.hexDigitValue? low with
      | some high, some low => UInt8.ofNat (16 * high + low) :: toBytes rest
      | _, _ => 37 :: toBytes (high :: low :: rest)
  | character :: rest => String.utf8EncodeChar character ++ toBytes rest
  | [] => []

/-- The text that characters with escapes stand for. -/
def decode (characters : List Char) : String :=
  Text.Utf8.readLossy (toBytes characters)

/-- A name or value of a query, with a plus sign for each space. -/
def encodeComponent (text : String) : List Char :=
  text.toList.flatMap fun character =>
    if character = ' ' then ['+']
    else if isUnreserved character then [character]
    else escapeCharacter character

/-- The text of a name or value of a query. -/
def decodeComponent (characters : List Char) : String :=
  decode (characters.map fun character => if character = '+' then ' ' else character)

/-- The query that holds names and values. -/
def encodePairs (pairs : List (String × String)) : List Char :=
  Text.joinWith ['&']
    (pairs.map fun pair => encodeComponent pair.1 ++ '=' :: encodeComponent pair.2)

/-- The name and value of a part of a query. -/
def decodePair (part : List Char) : String × String :=
  match Text.cutAt ['='] part with
  | some (name, value) => (decodeComponent name, decodeComponent value)
  | none => (decodeComponent part, "")

/-- The names and values that a query holds. -/
def decodePairs (query : List Char) : List (String × String) :=
  ((Text.splitOn '&' query).filter fun part => !part.isEmpty).map decodePair

end MonitorOperator.Http.Percent
