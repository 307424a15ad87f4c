import WorkflowGuard.Text.Printable

/-!
# Quoted texts

Diagnostics show a text between double quotes. A quote, a backslash, a tab, a line feed, a
carriage return and a null have two-character escapes; any other character that is not
printable is written by its code point in hexadecimal between braces.
-/

namespace WorkflowGuard.Text

/-- One character as it stands inside a quoted text. -/
def quotedChar (character : Char) : List Char :=
  match character with
  | '"' => ['\\', '"']
  | '\\' => ['\\', '\\']
  | '\t' => ['\\', 't']
  | '\n' => ['\\', 'n']
  | '\r' => ['\\', 'r']
  | '\x00' => ['\\', '0']
  | other =>
    if isPrintable other then [other]
    else ['\\', 'u', '\x7b'] ++ Nat.toDigits 16 other.toNat ++ ['\x7d']

def quoted (text : String) : String :=
  String.ofList ('"' :: text.toList.flatMap quotedChar ++ ['"'])

end WorkflowGuard.Text
