import MonitorOperator.Text.Utf8

/-!
# Base64

`encode` writes bytes in the standard alphabet with padding, and `decode?` reads them back. The
reader takes no character outside the alphabet. The last group must be padded to four characters,
but the bits that it has to spare may have any value. Padding that only follows whole groups is
ignored.
-/

namespace MonitorOperator.Text.Base64

open Utf8 (Bytes)

/-- The character for six bits. -/
def letter (value : Nat) : Char :=
  if value < 26 then Char.ofNat (65 + value)
  else if value < 52 then Char.ofNat (71 + value)
  else if value < 62 then Char.ofNat (value - 4)
  else if value = 62 then '+'
  else '/'

/-- The six bits of a character of the alphabet. -/
def sextet? (character : Char) : Option Nat :=
  let code := character.toNat
  if 65 ≤ code && code ≤ 90 then some (code - 65)
  else if 97 ≤ code && code ≤ 122 then some (code - 71)
  else if 48 ≤ code && code ≤ 57 then some (code + 4)
  else if code = 43 then some 62
  else if code = 47 then some 63
  else none

/-- Three bytes as one number, and a number's three bytes. -/
def join (first second third : UInt8) : Nat :=
  first.toNat * 65536 + second.toNat * 256 + third.toNat

/-- The byte of a number that `shift` bits follow. -/
def byteAt (number shift : Nat) : UInt8 :=
  UInt8.ofNat ((number >>> shift) % 256)

/-- The character for the six bits of a number that `shift` bits follow. -/
def letterAt (number shift : Nat) : Char :=
  letter ((number >>> shift) % 64)

/-- Bytes in Base64. -/
def encode : Bytes → List Char
  | [] => []
  | [first] =>
      let number := join first 0 0
      [letterAt number 18, letterAt number 12, '=', '=']
  | [first, second] =>
      let number := join first second 0
      [letterAt number 18, letterAt number 12, letterAt number 6, '=']
  | first :: second :: third :: rest =>
      let number := join first second third
      letterAt number 18 :: letterAt number 12 :: letterAt number 6 :: letterAt number 0 ::
        encode rest

/-- Read groups of four characters after the first character is known not to be padding. -/
def decodeGroups? : List Char → Option Bytes
  | first :: second :: third :: fourth :: rest =>
      if (first :: second :: third :: fourth :: rest).all (· == '=') then some []
      else do
        let first ← sextet? first
        let second ← sextet? second
        if third = '=' then
          if fourth = '=' && rest.isEmpty then
            pure [byteAt (first * 262144 + second * 4096) 16]
          else none
        else do
          let third ← sextet? third
          if fourth = '=' then
            if rest.isEmpty then
              let number := first * 262144 + second * 4096 + third * 64
              pure [byteAt number 16, byteAt number 8]
            else none
          else do
            let fourth ← sextet? fourth
            let bytes ← decodeGroups? rest
            let number := first * 262144 + second * 4096 + third * 64 + fourth
            pure (byteAt number 16 :: byteAt number 8 :: byteAt number 0 :: bytes)
  | rest => if rest.all (· == '=') then some [] else none

/-- The bytes that a text in Base64 stands for. -/
def decode? (characters : List Char) : Option Bytes :=
  if characters.head? = some '=' then none else decodeGroups? characters

end MonitorOperator.Text.Base64
