import MonitorOperator.Document.Access
import MonitorOperator.Text.Cut
import MonitorOperator.Text.Unicode

/-!
# Reading JSON

`readText` reads a document from characters and `readBytes` from bytes, whose encoding it finds out
from their first four. Beyond the standard, `NaN`, `Infinity` and `-Infinity` are numbers. Of fields
with one key the last counts. A surrogate that is not half of a pair reads as the replacement
character.
-/

namespace MonitorOperator.Document

/-- The text is not JSON. -/
abbrev malformed : Fault := .lower .malformedJson

/-- The characters after any white space of JSON. -/
def skipSpace : List Char → List Char
  | [] => []
  | character :: rest =>
      if character = ' ' || character = '\t' || character = '\n' || character = '\r' then
        skipSpace rest
      else character :: rest

/-- The number of four hexadecimal digits. -/
def hexUnit? (first second third fourth : Char) : Option Nat := do
  let first ← Text.hexDigitValue? first
  let second ← Text.hexDigitValue? second
  let third ← Text.hexDigitValue? third
  let fourth ← Text.hexDigitValue? fourth
  pure (first * 4096 + second * 256 + third * 16 + fourth)

/-- The character that a letter after a backslash stands for. -/
def escapedLetter? (letter : Char) : Option Char :=
  if letter = Text.quotationMark || letter = Text.backslash || letter = '/' then some letter
  else if letter = 'b' then some (Char.ofNat 8)
  else if letter = 'f' then some (Char.ofNat 12)
  else if letter = 'n' then some '\n'
  else if letter = 'r' then some '\r'
  else if letter = 't' then some '\t'
  else none

/-- Put a character in front of what a string goes on with. -/
def prepend (character : Char) (read : Except Fault (List Char × List Char)) :
    Except Fault (List Char × List Char) :=
  read.map fun (characters, rest) => (character :: characters, rest)

/-- The characters of a string up to its closing mark, and what follows it. A high surrogate that
was read just before, if any, waits for its other half. -/
def readString : (high : Option Nat) → List Char → Except Fault (List Char × List Char)
  | _, [] => .error malformed
  | high, '\\' :: 'u' :: first :: second :: third :: fourth :: rest =>
      match hexUnit? first second third fourth with
      | none => .error malformed
      | some unit =>
          match high with
          | some upper =>
              if Text.isLowSurrogate unit then
                prepend (Text.ofSurrogates upper unit) (readString none rest)
              else if Text.isHighSurrogate unit then
                prepend Text.Utf8.replacement (readString (some unit) rest)
              else
                prepend Text.Utf8.replacement
                  (prepend (Text.Utf8.character unit) (readString none rest))
          | none =>
              if Text.isHighSurrogate unit then readString (some unit) rest
              else prepend (Text.Utf8.character unit) (readString none rest)
  | some _, '\\' :: letter :: rest =>
      match escapedLetter? letter with
      | some character =>
          prepend Text.Utf8.replacement (prepend character (readString none rest))
      | none => .error malformed
  | none, '\\' :: letter :: rest =>
      match escapedLetter? letter with
      | some character => prepend character (readString none rest)
      | none => .error malformed
  | high, character :: rest =>
      let read :=
        if character = Text.quotationMark then .ok ([], rest)
        else if character = Text.backslash || character.toNat < 0x20 then .error malformed
        else prepend character (readString none rest)
      match high with
      | some _ => prepend Text.Utf8.replacement read
      | none => read

/-- The values of the digits that the characters begin with, and what follows them. -/
def asciiDigits : List Char → List Nat × List Char
  | [] => ([], [])
  | character :: rest =>
      match Text.asciiDigitValue? character with
      | some digit =>
          let (digits, after) := asciiDigits rest
          (digit :: digits, after)
      | none => ([], character :: rest)

/-- The digits of a fraction, if one follows. -/
def readFraction : List Char → Option (List Nat) × List Char
  | '.' :: rest =>
      match asciiDigits rest with
      | ([], _) => (none, '.' :: rest)
      | (digits, after) => (some digits, after)
  | rest => (none, rest)

/-- The exponent, if one follows. -/
def readExponent : List Char → Option Int × List Char
  | [] => (none, [])
  | mark :: rest =>
      if mark = 'e' || mark = 'E' then
        let (negative, digits) := Decimal.signOf rest
        match asciiDigits digits with
        | ([], _) => (none, mark :: rest)
        | (digits, after) => (some (Decimal.WrittenInteger.value ⟨negative, digits⟩), after)
      else (none, mark :: rest)

/-- A number whose sign has been read, and what follows it. -/
def readNumber (negative : Bool) (characters : List Char) :
    Except Fault (Document × List Char) := do
  let (whole, rest) ←
    match characters with
    | '0' :: rest => .ok ([0], rest)
    | rest =>
        match asciiDigits rest with
        | ([], _) => .error malformed
        | found => .ok found
  let (fraction, rest) := readFraction rest
  let (exponent, rest) := readExponent rest
  if fraction.isNone && exponent.isNone then
    if Decimal.digitLimit < whole.length then throw (.value (.tooManyDigits whole.length))
    pure (integer (Decimal.WrittenInteger.value ⟨negative, whole⟩), rest)
  else
    let fraction := fraction.getD []
    let digits := Text.ofDigits (whole ++ fraction)
    let number := Decimal.Binary64.ofDecimal negative digits (exponent.getD 0 - fraction.length)
    pure (.scalar (.real number), rest)

/-- The words that stand for values. -/
def words : List (List Char × Document) :=
  [("null".toList, null), ("true".toList, boolean true), ("false".toList, boolean false),
    ("NaN".toList, .scalar (.real .undefined)),
    ("Infinity".toList, .scalar (.real (.infinite false))),
    ("-Infinity".toList, .scalar (.real (.infinite true)))]

/-- A word that the characters begin with, and what follows it. -/
def readWord? (characters : List Char) : Option (Document × List Char) :=
  words.findSome? fun (word, value) => (Text.dropPattern? word characters).map (value, ·)

/-- How deeply lists and objects may be nested in each other. -/
def depthLimit : Nat := 970

mutual

/-- A value at a depth of nesting, and what follows it. -/
def readValue : (fuel depth : Nat) → List Char → Except Fault (Document × List Char)
  | 0, _, _ => .error malformed
  | fuel + 1, depth, characters =>
      match characters with
      | [] => .error malformed
      | '[' :: rest =>
          if depthLimit ≤ depth then .error (.lower .tooDeep)
          else
            match skipSpace rest with
            | ']' :: rest => .ok (.list [], rest)
            | rest => do
                let (items, rest) ← readItems fuel (depth + 1) rest
                pure (.list items, rest)
      | '\x7b' :: rest =>
          if depthLimit ≤ depth then .error (.lower .tooDeep)
          else
            match skipSpace rest with
            | '\x7d' :: rest => .ok (.object [], rest)
            | rest => do
                let (fields, rest) ← readFields fuel (depth + 1) rest
                pure (.object (Fields.ofList fields), rest)
      | character :: rest =>
          if character = Text.quotationMark then do
            let (characters, rest) ← readString none rest
            pure (text (String.ofList characters), rest)
          else
            match readWord? (character :: rest) with
            | some found => .ok found
            | none =>
                if character = '-' then readNumber true rest
                else readNumber false (character :: rest)

/-- The items of a list up to its closing bracket, and what follows it. -/
def readItems : (fuel depth : Nat) → List Char → Except Fault (List Document × List Char)
  | 0, _, _ => .error malformed
  | fuel + 1, depth, characters => do
      let (item, rest) ← readValue fuel depth characters
      match skipSpace rest with
      | ']' :: rest => pure ([item], rest)
      | ',' :: rest =>
          let (items, rest) ← readItems fuel depth (skipSpace rest)
          pure (item :: items, rest)
      | _ => throw malformed

/-- The fields of an object up to its closing brace, and what follows it. -/
def readFields : (fuel depth : Nat) → List Char → Except Fault (Fields × List Char)
  | 0, _, _ => .error malformed
  | fuel + 1, depth, characters =>
      match characters with
      | [] => .error malformed
      | mark :: rest =>
          if mark = Text.quotationMark then do
            let (key, rest) ← readString none rest
            match skipSpace rest with
            | ':' :: rest =>
                let (value, rest) ← readValue fuel depth (skipSpace rest)
                let field := (Scalar.text (String.ofList key), value)
                match skipSpace rest with
                | '\x7d' :: rest => pure ([field], rest)
                | ',' :: rest =>
                    let (fields, rest) ← readFields fuel depth (skipSpace rest)
                    pure (field :: fields, rest)
                | _ => throw malformed
            | _ => throw malformed
          else .error malformed

end

/-- The document that the characters spell, with nothing but white space around it. -/
def readCharacters (characters : List Char) : Except Fault Document := do
  let (document, rest) ← readValue (characters.length + 1) 0 (skipSpace characters)
  match skipSpace rest with
  | [] => pure document
  | _ => throw malformed

/-- The document that a text spells. A byte order mark is no part of a text. -/
def readText (text : String) : Except Fault Document :=
  readCharacters text.toList

/-- The document that bytes spell in the encoding that their first four show. -/
def readBytes (bytes : Text.Utf8.Bytes) : Except Fault Document :=
  match Text.readDetected? bytes with
  | some characters => readCharacters characters
  | none => .error (.lower .undecodable)

end MonitorOperator.Document
