import WorkflowGuard.Json.Value

/-!
# Writing JSON

Values are written without any space. In a text only the quote, the backslash and the control
characters below U+0020 are escaped: five of these have an escape of two characters, the
others are written with four hexadecimal digits. All other characters stand for themselves.
-/

namespace WorkflowGuard.Json

def hexDigit (digit : Nat) : Char :=
  Nat.digitChar digit

/-- One character as it stands in a written text. -/
def escapedChar (character : Char) : List Char :=
  match character with
  | '"' => ['\\', '"']
  | '\\' => ['\\', '\\']
  | '\x08' => ['\\', 'b']
  | '\x0c' => ['\\', 'f']
  | '\n' => ['\\', 'n']
  | '\r' => ['\\', 'r']
  | '\t' => ['\\', 't']
  | other =>
    if other.toNat < 0x20 then
      ['\\', 'u', '0', '0', hexDigit (other.toNat / 16), hexDigit (other.toNat % 16)]
    else [other]

def writeText (text : String) : List Char :=
  '"' :: text.toList.flatMap escapedChar ++ ['"']

namespace Value

mutual

def write : Value → List Char
  | null => ['n', 'u', 'l', 'l']
  | bool true => ['t', 'r', 'u', 'e']
  | bool false => ['f', 'a', 'l', 's', 'e']
  | number value => value.render.toList
  | text value => writeText value
  | array elements => '[' :: writeElements elements
  | object members => '\x7b' :: writeMembers members

/-- The elements of an array with commas between them, and the closing bracket. -/
def writeElements : List Value → List Char
  | [] => [']']
  | [last] => write last ++ [']']
  | element :: rest => write element ++ ',' :: writeElements rest

/-- The members of an object with commas between them, and the closing brace. -/
def writeMembers : List (String × Value) → List Char
  | [] => ['\x7d']
  | [(name, last)] => writeText name ++ ':' :: write last ++ ['\x7d']
  | (name, value) :: rest => writeText name ++ ':' :: write value ++ ',' :: writeMembers rest

end

def render (value : Value) : String :=
  String.ofList value.write

end Value

end WorkflowGuard.Json
