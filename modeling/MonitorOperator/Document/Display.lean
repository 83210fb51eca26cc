import MonitorOperator.Decimal.Layout
import MonitorOperator.Document.Basic
import MonitorOperator.Text.Quoted

/-!
# Documents in messages

`literal` shows a document so that its kind can be told, with texts in quotes; `display` shows a text
bare and anything else as its literal.
-/

namespace MonitorOperator

/-- A scalar with texts in quotes. -/
def Scalar.literal : Scalar → String
  | .null => "None"
  | .boolean true => "True"
  | .boolean false => "False"
  | .integer value => Text.ofInt value
  | .real value => Decimal.messageLayout.write value
  | .text value => Text.quoted value

/-- A scalar with texts bare. -/
def Scalar.display : Scalar → String
  | .text value => value
  | value => value.literal

namespace Document

mutual

/-- A document with texts in quotes. -/
def literal : Document → String
  | scalar value => value.literal
  | list items => "[" ++ String.intercalate ", " (itemLiterals items) ++ "]"
  | object fields => "\x7b" ++ String.intercalate ", " (fieldLiterals fields) ++ "\x7d"

/-- The literals of the items of a list. -/
def itemLiterals : List Document → List String
  | [] => []
  | item :: items => item.literal :: itemLiterals items

/-- The literals of the fields of an object. -/
def fieldLiterals : List (Scalar × Document) → List String
  | [] => []
  | (key, value) :: fields => (key.literal ++ ": " ++ value.literal) :: fieldLiterals fields

end

/-- A document with a text bare. -/
def display : Document → String
  | scalar value => value.display
  | document => document.literal

/-- The name that messages give to the kind of a document. -/
def kindName : Document → String
  | scalar .null => "NoneType"
  | scalar (.boolean _) => "bool"
  | scalar (.integer _) => "int"
  | scalar (.real _) => "float"
  | scalar (.text _) => "str"
  | list _ => "list"
  | object _ => "dict"

@[simp] theorem display_text (value : String) : (text value).display = value := rfl

end Document

end MonitorOperator
