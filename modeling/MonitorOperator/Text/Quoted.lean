import MonitorOperator.Text.Digit
import MonitorOperator.Text.Printable

/-!
# Quoted text

`quoted` shows a text between quotation marks so that every character of it can be told: the mark
in use and the backslash are escaped, and a character that is not printable is written by its code.
Apostrophes mark the text unless it holds an apostrophe and no quotation mark.
-/

namespace MonitorOperator.Text

/-- The apostrophe. -/
def apostrophe : Char := Char.ofNat 39

/-- The quotation mark. -/
def quotationMark : Char := Char.ofNat 34

/-- The backslash. -/
def backslash : Char := Char.ofNat 92

/-- How one character is shown between the given marks. -/
def quotedCharacter (mark character : Char) : List Char :=
  let code := character.toNat
  if character = mark || character = backslash then [backslash, character]
  else if code = 9 then [backslash, 't']
  else if code = 10 then [backslash, 'n']
  else if code = 13 then [backslash, 'r']
  else if isPrintable character then [character]
  else if code < 0x100 then backslash :: 'x' :: hexDigits 2 code
  else if code < 0x10000 then backslash :: 'u' :: hexDigits 4 code
  else backslash :: 'U' :: hexDigits 8 code

/-- The mark that a text is put between. -/
def markOf (characters : List Char) : Char :=
  if characters.contains apostrophe && !characters.contains quotationMark then quotationMark
  else apostrophe

/-- A text between marks, with what could be misread escaped. -/
def quoted (text : String) : String :=
  let characters := text.toList
  let mark := markOf characters
  String.ofList (mark :: characters.flatMap (quotedCharacter mark) ++ [mark])

end MonitorOperator.Text
