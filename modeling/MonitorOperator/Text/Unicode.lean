import MonitorOperator.Text.Utf8

/-!
# Encodings of Unicode

UTF-16 and UTF-32 beside UTF-8, and `detect`, which tells from the first four bytes of a JSON text
which of them it is in: by a byte order mark, or by where its zero bytes stand.
-/

namespace MonitorOperator.Text

open Utf8 (Bytes)

/-- The unit is the first half of a pair of surrogates. -/
def isHighSurrogate (unit : Nat) : Bool :=
  0xD800 ≤ unit && unit ≤ 0xDBFF

/-- The unit is the second half of a pair of surrogates. -/
def isLowSurrogate (unit : Nat) : Bool :=
  0xDC00 ≤ unit && unit ≤ 0xDFFF

/-- The character of a pair of surrogates. -/
def ofSurrogates (high low : Nat) : Char :=
  Char.ofNat (0x10000 + (high - 0xD800) * 0x400 + (low - 0xDC00))

/-- The order of the bytes in a unit. -/
inductive ByteOrder where
  | big
  | little
  deriving DecidableEq, Repr

/-- The number of two bytes. -/
def ByteOrder.two : ByteOrder → UInt8 → UInt8 → Nat
  | big, first, second => first.toNat * 256 + second.toNat
  | little, first, second => second.toNat * 256 + first.toNat

/-- The number of four bytes. -/
def ByteOrder.four (order : ByteOrder) (first second third fourth : UInt8) : Nat :=
  match order with
  | big => order.two first second * 65536 + order.two third fourth
  | little => order.two third fourth * 65536 + order.two first second

/-- Read UTF-16. A surrogate that is not half of a pair is let through on demand. -/
def decode16 (surrogates : Bool) (order : ByteOrder) : Bytes → List (Option Char)
  | [] => []
  | [_] => [none]
  | [first, second] =>
      let unit := order.two first second
      if isHighSurrogate unit then [none]
      else if isLowSurrogate unit then [if surrogates then some Utf8.replacement else none]
      else [some (Utf8.character unit)]
  | [first, second, _] =>
      let unit := order.two first second
      if isHighSurrogate unit then [none]
      else if isLowSurrogate unit then
        [if surrogates then some Utf8.replacement else none, none]
      else [some (Utf8.character unit), none]
  | first :: second :: third :: fourth :: rest =>
      let unit := order.two first second
      let next := order.two third fourth
      if isHighSurrogate unit then
        if isLowSurrogate next then
          some (ofSurrogates unit next) :: decode16 surrogates order rest
        else
          (if surrogates then some Utf8.replacement else none) ::
            decode16 surrogates order (third :: fourth :: rest)
      else if isLowSurrogate unit then
        (if surrogates then some Utf8.replacement else none) ::
          decode16 surrogates order (third :: fourth :: rest)
      else some (Utf8.character unit) :: decode16 surrogates order (third :: fourth :: rest)

/-- Read UTF-32. Surrogates are let through on demand. -/
def decode32 (surrogates : Bool) (order : ByteOrder) : Bytes → List (Option Char)
  | first :: second :: third :: fourth :: rest =>
      let code := order.four first second third fourth
      let found :=
        if code.isValidChar then some (Char.ofNat code)
        else if surrogates && 0xD800 ≤ code && code ≤ 0xDFFF then some Utf8.replacement
        else none
      found :: decode32 surrogates order rest
  | [] => []
  | _ => [none]

/-- An encoding of Unicode. -/
inductive Encoding where
  | utf8
  | utf16 (order : ByteOrder)
  | utf32 (order : ByteOrder)
  deriving DecidableEq, Repr

/-- Read bytes in an encoding, with `none` for each malformed part. -/
def Encoding.decode (surrogates : Bool) : Encoding → Bytes → List (Option Char)
  | utf8, bytes => Utf8.decode surrogates bytes
  | utf16 order, bytes => decode16 surrogates order bytes
  | utf32 order, bytes => decode32 surrogates order bytes

/-- The encoding that a byte order mark tells, and the bytes after the mark. -/
def marked? : Bytes → Option (Encoding × Bytes)
  | 0 :: 0 :: 0xFE :: 0xFF :: rest => some (.utf32 .big, rest)
  | 0xFF :: 0xFE :: 0 :: 0 :: rest => some (.utf32 .little, rest)
  | 0xFE :: 0xFF :: rest => some (.utf16 .big, rest)
  | 0xFF :: 0xFE :: rest => some (.utf16 .little, rest)
  | 0xEF :: 0xBB :: 0xBF :: rest => some (.utf8, rest)
  | _ => none

/-- The encoding that the zeroes among the first bytes tell, as a JSON text begins with ASCII. -/
def unmarked : Bytes → Encoding
  | first :: second :: third :: fourth :: _ =>
      if first = 0 then if second = 0 then .utf32 .big else .utf16 .big
      else if second = 0 then
        if third = 0 && fourth = 0 then .utf32 .little else .utf16 .little
      else .utf8
  | [first, second] =>
      if first = 0 then .utf16 .big else if second = 0 then .utf16 .little else .utf8
  | _ => .utf8

/-- The encoding of a JSON text, and its bytes without a byte order mark. -/
def detect (bytes : Bytes) : Encoding × Bytes :=
  (marked? bytes).getD (unmarked bytes, bytes)

/-- The characters of a JSON text in the encoding that its first bytes show, if it is well-formed.
Surrogates are let through. -/
def readDetected? (bytes : Bytes) : Option (List Char) :=
  let (encoding, bytes) := detect bytes
  Utf8.allPresent (encoding.decode true bytes)

end MonitorOperator.Text
