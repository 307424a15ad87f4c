import WorkflowGuard.Text.Ascii
import WorkflowGuard.Text.Blank

/-!
# The words for truth values

A text stands for a truth value if it is `true` or `false`, in any ASCII case and with white
space around it.
-/

namespace WorkflowGuard.Text

def truthValue? (text : String) : Option Bool :=
  let word := trim text
  if equalIgnoringAsciiCase word "true" then some true
  else if equalIgnoringAsciiCase word "false" then some false
  else none

end WorkflowGuard.Text
