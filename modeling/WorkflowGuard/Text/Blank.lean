/-!
# Blank text

Names, payloads and literals are trimmed, or refused for being blank, by the Unicode property
`White_Space`. The zero-width characters U+200B and U+FEFF and the separator control U+001F
do not have it, so a name made of them is not blank.
-/

namespace WorkflowGuard.Text

/-- The Unicode property `White_Space`. -/
def isSpace (character : Char) : Bool :=
  let code := character.toNat
  (0x09 ≤ code && code ≤ 0x0D) || code == 0x20 || code == 0x85 || code == 0xA0 ||
    code == 0x1680 || (0x2000 ≤ code && code ≤ 0x200A) || code == 0x2028 || code == 0x2029 ||
    code == 0x202F || code == 0x205F || code == 0x3000

/-- The text has no character other than white space; the empty text is blank. -/
def isBlank (text : String) : Bool :=
  text.toList.all isSpace

/-- The text is made of white space, or empty. -/
def Blank (text : String) : Prop :=
  ∀ character ∈ text.toList, isSpace character = true

theorem isBlank_iff {text : String} : isBlank text = true ↔ Blank text :=
  List.all_eq_true

/-- The characters left after white space is removed from both ends. -/
def trimmed (characters : List Char) : List Char :=
  ((characters.dropWhile isSpace).reverse.dropWhile isSpace).reverse

/-- The text without the white space at its ends. -/
def trim (text : String) : String :=
  String.ofList (trimmed text.toList)

/-- White space at the front alone is removed. -/
def trimStart (characters : List Char) : List Char :=
  characters.dropWhile isSpace

end WorkflowGuard.Text
