import MonitorOperator.Decimal.Layout
import MonitorOperator.Document.Sorted
import MonitorOperator.Text.Quoted

/-!
# Writing documents as JSON

A `Style` says what stands between items and after keys. Everything outside printable ASCII is
written by its UTF-16 units, so the text is the same in every encoding. `canonicalText?` sorts the
fields first and leaves no space, so documents that differ in the order of fields have one text.
-/

namespace MonitorOperator

/-- What stands between two items or fields, and between a key and its value. -/
structure Style where
  separator : String
  colon : String

/-- No spaces. -/
def compact : Style := ⟨",", ":"⟩

/-- A space after each mark. -/
def spaced : Style := ⟨", ", ": "⟩

/-- A UTF-16 unit as an escape. -/
def escapedUnit (unit : Nat) : List Char :=
  Text.backslash :: 'u' :: Text.hexDigits 4 unit

/-- A character inside a JSON string. -/
def escapedCharacter (character : Char) : List Char :=
  let code := character.toNat
  if character = Text.quotationMark || character = Text.backslash then [Text.backslash, character]
  else if code = 8 then [Text.backslash, 'b']
  else if code = 9 then [Text.backslash, 't']
  else if code = 10 then [Text.backslash, 'n']
  else if code = 12 then [Text.backslash, 'f']
  else if code = 13 then [Text.backslash, 'r']
  else if 0x20 ≤ code && code ≤ 0x7E then [character]
  else if code < 0x10000 then escapedUnit code
  else
    let offset := code - 0x10000
    escapedUnit (0xD800 + offset / 0x400) ++ escapedUnit (0xDC00 + offset % 0x400)

/-- A JSON string. -/
def jsonString (value : String) : String :=
  String.ofList
    (Text.quotationMark :: value.toList.flatMap escapedCharacter ++ [Text.quotationMark])

namespace Scalar

/-- A scalar as the text of a key. -/
def keyText : Scalar → String
  | null => "null"
  | boolean true => "true"
  | boolean false => "false"
  | integer value => Text.ofInt value
  | real value => Decimal.documentLayout.write value
  | text value => value

/-- A scalar as JSON. -/
def json : Scalar → String
  | text value => jsonString value
  | value => value.keyText

end Scalar

namespace Document

mutual

/-- A document as JSON in a style, its fields in their order. -/
def json (style : Style) : Document → String
  | scalar value => value.json
  | list items => "[" ++ String.intercalate style.separator (jsonItems style items) ++ "]"
  | object fields =>
      "\x7b" ++ String.intercalate style.separator (jsonFields style fields) ++ "\x7d"

/-- The items of a list as JSON. -/
def jsonItems (style : Style) : List Document → List String
  | [] => []
  | item :: items => item.json style :: jsonItems style items

/-- The fields of an object as JSON. -/
def jsonFields (style : Style) : List (Scalar × Document) → List String
  | [] => []
  | (key, value) :: fields =>
      (jsonString key.keyText ++ style.colon ++ value.json style) :: jsonFields style fields

end

/-- A document as JSON in a style with its fields sorted, if they have an order. -/
def sortedText? (style : Style) (document : Document) : Option String :=
  document.sorted?.map (json style)

/-- The one JSON text of all documents that differ only in the order of fields. -/
def canonicalText? (document : Document) : Option String :=
  document.sortedText? compact

end Document

end MonitorOperator
