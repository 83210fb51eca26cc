import MonitorOperator.Http.Message
import MonitorOperator.Text.Unicode

/-!
# The text of a response

The content type of a response may name the character set of its body. Without one, or when its name
is not known, the body is UTF-8. Malformed parts read as the replacement character. A body in UTF-16
or UTF-32 of no given order must begin with a byte order mark.
-/

namespace MonitorOperator.Http

open Text (Encoding)
open Text.Utf8 (Bytes)

/-- A character set that a body can be in. -/
inductive Charset where
  /-- One byte is one character; the table lists those from 0x80 on. -/
  | table (upper : List (Option Char))
  /-- An encoding of Unicode. -/
  | unicode (encoding : Encoding)
  /-- UTF-16 or UTF-32 in the byte order that one of the marks tells; a unit has so many bits. -/
  | marked (width : Nat) (marks : List (Bytes × Encoding))
  /-- UTF-8 after an optional mark. -/
  | markedUtf8

namespace Charset

/-- The characters of the bytes from 0x80 to 0x9F of Windows-1252. -/
def windowsPunctuation : List Nat :=
  [0x20AC, 0, 0x201A, 0x192, 0x201E, 0x2026, 0x2020, 0x2021, 0x2C6, 0x2030, 0x160, 0x2039, 0x152, 0,
    0x17D, 0, 0, 0x2018, 0x2019, 0x201C, 0x201D, 0x2022, 0x2013, 0x2014, 0x2DC, 0x2122, 0x161,
    0x203A, 0x153, 0, 0x17E, 0x178]

/-- The upper half of Latin-1, from a byte on. -/
def latinFrom (first : Nat) : List (Option Char) :=
  (List.range (256 - first)).map fun offset => some (Char.ofNat (first + offset))

/-- Latin-1. -/
def latin : Charset := .table (latinFrom 0x80)

/-- Windows-1252. -/
def windows : Charset :=
  .table
    (windowsPunctuation.map (fun code => if code = 0 then none else some (Char.ofNat code)) ++
      latinFrom 0xA0)

/-- The marks of the byte orders of UTF-16. -/
def marks16 : List (Bytes × Encoding) :=
  [([0xFE, 0xFF], .utf16 .big), ([0xFF, 0xFE], .utf16 .little)]

/-- The marks of the byte orders of UTF-32. -/
def marks32 : List (Bytes × Encoding) :=
  [([0, 0, 0xFE, 0xFF], .utf32 .big), ([0xFF, 0xFE, 0, 0], .utf32 .little)]

/-- The character sets by their names, in lower case with an underscore between two words. -/
def names : List (List String × Charset) :=
  [(["utf_8", "utf8", "u8", "utf", "utf8_ucs2", "utf8_ucs4", "cp65001"], .unicode .utf8),
    (["utf_8_sig"], .markedUtf8),
    (["ascii", "us_ascii", "us", "646", "ansi_x3.4_1968", "ansi_x3_4_1968", "ansi_x3.4_1986",
      "cp367", "csascii", "ibm367", "iso646_us", "iso_646.irv_1991", "iso_ir_6"], .table []),
    (["latin_1", "latin1", "latin", "l1", "iso8859", "iso8859_1", "iso_8859_1",
      "iso_8859_1_1987", "iso_ir_100", "8859", "cp819", "csisolatin1", "ibm819"], latin),
    (["cp1252", "windows_1252", "1252"], windows),
    (["utf_16", "utf16", "u16"], .marked 16 marks16),
    (["utf_16_le", "utf_16le", "unicodelittleunmarked"], .unicode (.utf16 .little)),
    (["utf_16_be", "utf_16be", "unicodebigunmarked"], .unicode (.utf16 .big)),
    (["utf_32", "utf32", "u32"], .marked 32 marks32),
    (["utf_32_le", "utf_32le"], .unicode (.utf32 .little)),
    (["utf_32_be", "utf_32be"], .unicode (.utf32 .big))]

/-- A name in lower case with an underscore for each run of other characters. -/
def normalName (name : List Char) : List Char :=
  let isPart := fun character : Char => character.isAlphanum || character == '.'
  let step := fun (character : Char) (rest : List Char) =>
    if isPart character then character.toLower :: rest
    else if rest.head?.any isPart then '_' :: rest
    else rest
  (name.foldr step []).dropWhile (· == '_')

/-- The character set of a name. -/
def ofName? (name : List Char) : Option Charset :=
  (names.find? fun entry => entry.1.contains (String.ofList (normalName name))).map (·.2)

/-- The character that a byte stands for in a table. -/
def tableCharacter (upper : List (Option Char)) (byte : UInt8) : Option Char :=
  if byte < 0x80 then some (Char.ofNat byte.toNat) else (upper[byte.toNat - 0x80]?).getD none

/-- The fault of a body that does not tell its byte order. -/
def missingMark : Fault := .lower .unmarked

/-- Read bytes after one of the marks. Fewer bytes than a unit has need no mark, and are malformed. -/
def decodeMarked (width : Nat) (marks : List (Bytes × Encoding)) (bytes : Bytes) :
    Except Fault (List (Option Char)) :=
  match marks.find? fun mark => mark.1.isPrefixOf bytes with
  | some (mark, encoding) => .ok (encoding.decode false (bytes.drop mark.length))
  | none =>
      if bytes.isEmpty then .ok []
      else if bytes.length * 8 < width then .ok [none]
      else .error missingMark

/-- The characters of the bytes, with `none` for each malformed part. -/
def decode : Charset → Bytes → Except Fault (List (Option Char))
  | table upper, bytes => .ok (bytes.map (tableCharacter upper))
  | unicode encoding, bytes => .ok (encoding.decode false bytes)
  | marked width marks, bytes => decodeMarked width marks bytes
  | markedUtf8, bytes =>
      match Text.marked? bytes with
      | some (.utf8, rest) => .ok (Encoding.utf8.decode false rest)
      | _ => .ok (Encoding.utf8.decode false bytes)

end Charset

/-- Split at the semicolons outside of quotation marks. -/
def splitParameters : (quoted : Bool) → List Char → List (List Char)
  | _, [] => [[]]
  | quoted, character :: rest =>
      if character = ';' && !quoted then [] :: splitParameters false rest
      else
        let isMark := character == Text.quotationMark
        match splitParameters (quoted != isMark) rest with
        | first :: others => (character :: first) :: others
        | [] => [[character]]

/-- A value without the quotation marks around it. -/
def unquoted (value : List Char) : List Char :=
  match value, value.getLast? with
  | first :: _ :: _, some last =>
      if first = Text.quotationMark && last = Text.quotationMark then
        value.tail.dropLast
      else value
  | _, _ => value

/-- The value of a parameter of a header. -/
def parameter? (name : String) (value : String) : Option (List Char) :=
  (splitParameters false value.toList).findSome? fun part =>
    match Text.cutAt ['='] part with
    | some (key, value) =>
        if Text.lowerAscii (Text.trim (String.ofList key)) = name then
          some (unquoted (Text.trim (String.ofList value)).toList)
        else none
    | none => none

namespace Response

/-- The character set of the body. -/
def charset (response : Response) : Charset :=
  ((parameter? "charset" (response.header "Content-Type")).bind Charset.ofName?).getD
    (.unicode .utf8)

/-- The body as text. -/
def text (response : Response) : Except Fault String := do
  let characters ← response.charset.decode response.body
  return String.ofList (characters.map fun found => found.getD Text.Utf8.replacement)

end Response

end MonitorOperator.Http
