import WorkflowGuard.Json.Node
import WorkflowGuard.Json.TextLexer

/-!
# Reading JSON

The reader takes strict JSON: white space is space, tab, line feed and carriage return; there
are no comments, no commas after the last item, no leading zeros, and nothing but white space
may follow the value. It builds the syntax tree of any depth; content is asked for later.
-/

namespace WorkflowGuard.Json

/-- White space between the tokens of a JSON text. -/
def isLayout (octet : UInt8) : Bool :=
  octet == 0x20 || octet == 0x09 || octet == 0x0A || octet == 0x0D

def skipLayout (bytes : Bytes) : Bytes :=
  bytes.dropWhile isLayout

def isDigit (octet : UInt8) : Bool :=
  0x30 ≤ octet && octet ≤ 0x39

/-- The digits at the front, as numbers, and what follows them. -/
def readDigits (bytes : Bytes) : List Nat × Bytes :=
  ((bytes.takeWhile isDigit).map fun octet => octet.toNat - 0x30, bytes.dropWhile isDigit)

/-- The digits after a point, if there is a point. -/
def readFraction? : Bytes → Option (List Nat × Bytes)
  | 0x2E :: rest =>
    let (digits, rest) := readDigits rest
    if digits.isEmpty then none else some (digits, rest)
  | rest => some ([], rest)

/-- The sign and the digits after an exponent mark, if there is a mark. -/
def readExponent? (bytes : Bytes) : Option (Option (Bool × List Nat) × Bytes) :=
  match bytes with
  | mark :: rest =>
    if mark = 0x65 ∨ mark = 0x45 then
      let (negative, rest) := match rest with
        | 0x2D :: rest => (true, rest)
        | 0x2B :: rest => (false, rest)
        | rest => (false, rest)
      let (digits, rest) := readDigits rest
      if digits.isEmpty then none else some (some (negative, digits), rest)
    else some (none, bytes)
  | [] => some (none, [])

/-- A number and what follows it. A zero in front stands alone. -/
def readNumeral? (bytes : Bytes) : Option (Numeral × Bytes) := do
  let (negative, rest) := match bytes with
    | 0x2D :: rest => (true, rest)
    | rest => (false, rest)
  let (whole, rest) := readDigits rest
  guard (!whole.isEmpty && (whole.head? != some 0 || whole.length == 1))
  let (fraction, rest) ← readFraction? rest
  let (exponent, rest) ← readExponent? rest
  return (⟨negative, whole, fraction, exponent⟩, rest)

/-- A text whose opening quote has been read, and what follows it. -/
def readText? (bytes : Bytes) : Option (Option String × Bytes) :=
  (readPieces bytes).map fun (pieces, rest) => (pieceText? pieces, rest)

mutual

/-- A value, after white space, and what follows it. The first argument bounds the recursion. -/
def readNode : Nat → Bytes → Option (Node × Bytes)
  | 0, _ => none
  | fuel + 1, bytes =>
    match skipLayout bytes with
    | 0x6E :: 0x75 :: 0x6C :: 0x6C :: rest => some (.null, rest)
    | 0x74 :: 0x72 :: 0x75 :: 0x65 :: rest => some (.bool true, rest)
    | 0x66 :: 0x61 :: 0x6C :: 0x73 :: 0x65 :: rest => some (.bool false, rest)
    | 0x22 :: rest => (readText? rest).map fun (content, rest) => (.text content, rest)
    | 0x5B :: rest =>
      match skipLayout rest with
      | 0x5D :: rest => some (.array [], rest)
      | rest => (readElements fuel rest).map fun (elements, rest) => (.array elements, rest)
    | 0x7B :: rest =>
      match skipLayout rest with
      | 0x7D :: rest => some (.object [], rest)
      | rest => (readMembers fuel rest).map fun (members, rest) => (.object members, rest)
    | rest => (readNumeral? rest).map fun (numeral, rest) => (.number numeral.value?, rest)

/-- The elements of an array up to its closing bracket, at least one. -/
def readElements : Nat → Bytes → Option (List Node × Bytes)
  | 0, _ => none
  | fuel + 1, bytes => do
    let (element, rest) ← readNode fuel bytes
    match skipLayout rest with
    | 0x2C :: rest =>
      let (elements, rest) ← readElements fuel rest
      return (element :: elements, rest)
    | 0x5D :: rest => return ([element], rest)
    | _ => none

/-- The members of an object up to its closing brace, at least one. -/
def readMembers : Nat → Bytes → Option (List (Option String × Node) × Bytes)
  | 0, _ => none
  | fuel + 1, bytes =>
    match skipLayout bytes with
    | 0x22 :: rest => do
      let (name, rest) ← readText? rest
      match skipLayout rest with
      | 0x3A :: rest =>
        let (node, rest) ← readNode fuel rest
        match skipLayout rest with
        | 0x2C :: rest =>
          let (members, rest) ← readMembers fuel rest
          return ((name, node) :: members, rest)
        | 0x7D :: rest => return ([(name, node)], rest)
        | _ => none
      | _ => none
    | _ => none

end

/-- The syntax tree of a whole JSON text. Every step of the reader either consumes an octet or
goes from a list to its first item, so twice the length bounds the steps. -/
def Node.read? (bytes : Bytes) : Option Node :=
  match readNode (2 * bytes.length + 2) bytes with
  | some (node, rest) => if (skipLayout rest).isEmpty then some node else none
  | none => none

/-- Arrays and objects may be nested this deep where their content is used. -/
def maxDepth : Nat := 127

def Value.read? (bytes : Bytes) : Option Value :=
  (Node.read? bytes).bind (·.value? maxDepth)

end WorkflowGuard.Json
