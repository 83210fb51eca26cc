/-!
# Blank characters

The characters that separate words without being seen: the ASCII controls from tab to carriage
return and from file separator to unit separator, the space, and the other code points with the
Unicode property `White_Space`. `trim` removes them from both ends of a text.
-/

namespace MonitorOperator.Text

/-- The character separates words without being seen. -/
def isBlank (character : Char) : Bool :=
  let code := character.toNat
  (9 ≤ code && code ≤ 13) || (28 ≤ code && code ≤ 32) || code == 0x85 || code == 0xA0 ||
    code == 0x1680 || (0x2000 ≤ code && code ≤ 0x200A) || code == 0x2028 || code == 0x2029 ||
    code == 0x202F || code == 0x205F || code == 0x3000

/-- Drop every element that satisfies the test from both ends. -/
def trimWhere (test : Char → Bool) (characters : List Char) : List Char :=
  ((characters.dropWhile test).reverse.dropWhile test).reverse

/-- The text without the blanks at its two ends. -/
def trim (text : String) : String :=
  String.ofList (trimWhere isBlank text.toList)

end MonitorOperator.Text
