/-!
# Comparison of ASCII letters

Operator spellings and the words `true` and `false` are recognized whatever the case of their
ASCII letters. No other character has a second case here.
-/

namespace WorkflowGuard.Text

def isAscii (text : String) : Bool :=
  text.toList.all fun character => character.toNat < 0x80

/-- The characters of a text with `A` to `Z` in lower case. -/
def asciiLower (text : String) : List Char :=
  text.toList.map Char.toLower

/-- The two texts agree up to the case of ASCII letters. -/
def equalIgnoringAsciiCase (left right : String) : Bool :=
  asciiLower left == asciiLower right

end WorkflowGuard.Text
