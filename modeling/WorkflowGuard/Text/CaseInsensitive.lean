import WorkflowGuard.Text.Ascii
import WorkflowGuard.Text.Lowercase

/-!
# Comparison of texts up to letter case

Two texts are the same up to case when their characters, each replaced by its lower case,
give the same sequence. Texts in ASCII are compared letter by letter without the table.
-/

namespace WorkflowGuard.Text

/-- The lower case of a text, character by character. -/
def lowercaseAll (text : String) : List Char :=
  text.toList.flatMap lowercase

/-- The two texts agree up to letter case. -/
def equalIgnoringCase (left right : String) : Bool :=
  if isAscii left && isAscii right then
    equalIgnoringAsciiCase left right
  else
    lowercaseAll left == lowercaseAll right

end WorkflowGuard.Text
