import WorkflowGuard.Text.Utf8

/-!
# Lexical form of JSON texts

Between its quotes a JSON text is a sequence of octets and escapes. Control characters must be
escaped. The escape of a code unit by four hexadecimal digits stands for a character of its
own, or two of them, a high and a low surrogate, for one character beyond U+FFFF.
-/

namespace WorkflowGuard.Json

/-- A piece of a text: an octet, spelled or escaped, or the escape of a code unit. -/
inductive Piece where
  | octet (value : UInt8)
  | unit (value : Nat)
  deriving DecidableEq, Repr

/-- The value of a hexadecimal digit in either case. -/
def hexValue? (octet : UInt8) : Option Nat :=
  let code := octet.toNat
  if 0x30 ≤ code ∧ code ≤ 0x39 then some (code - 0x30)
  else if 0x61 ≤ code ∧ code ≤ 0x66 then some (code - 0x61 + 10)
  else if 0x41 ≤ code ∧ code ≤ 0x46 then some (code - 0x41 + 10)
  else none

/-- The code unit that four hexadecimal digits spell. -/
def unitValue? (first second third fourth : UInt8) : Option Nat := do
  return (((← hexValue? first) * 16 + (← hexValue? second)) * 16 + (← hexValue? third)) * 16 +
    (← hexValue? fourth)

/-- The octet that an escape of two characters stands for. -/
def shortEscape? (letter : UInt8) : Option UInt8 :=
  if letter = 0x22 then some 0x22
  else if letter = 0x5C then some 0x5C
  else if letter = 0x2F then some 0x2F
  else if letter = 0x62 then some 0x08
  else if letter = 0x66 then some 0x0C
  else if letter = 0x6E then some 0x0A
  else if letter = 0x72 then some 0x0D
  else if letter = 0x74 then some 0x09
  else none

/-- The pieces of a text up to its closing quote, and what follows the quote. -/
def readPieces : Bytes → Option (List Piece × Bytes)
  | [] => none
  | octet :: rest =>
    if octet = 0x22 then some ([], rest)
    else if octet = 0x5C then
      match rest with
      | 0x75 :: first :: second :: third :: fourth :: rest => do
        let unit ← unitValue? first second third fourth
        let (pieces, rest) ← readPieces rest
        return (.unit unit :: pieces, rest)
      | letter :: rest => do
        let octet ← shortEscape? letter
        let (pieces, rest) ← readPieces rest
        return (.octet octet :: pieces, rest)
      | [] => none
    else if octet < 0x20 then none
    else do
      let (pieces, rest) ← readPieces rest
      return (.octet octet :: pieces, rest)

/-- The code unit opens a pair of surrogates. -/
def isHighSurrogate (unit : Nat) : Bool :=
  0xD800 ≤ unit && unit ≤ 0xDBFF

/-- The code unit closes a pair of surrogates. -/
def isLowSurrogate (unit : Nat) : Bool :=
  0xDC00 ≤ unit && unit ≤ 0xDFFF

/-- The octets that pieces stand for; none if a surrogate has no partner. -/
def pieceBytes? : List Piece → Option Bytes
  | [] => some []
  | .octet value :: rest => (pieceBytes? rest).map (value :: ·)
  | .unit high :: rest =>
    if isHighSurrogate high then
      match rest with
      | .unit low :: rest =>
        if isLowSurrogate low then
          let code := 0x10000 + (high - 0xD800) * 0x400 + (low - 0xDC00)
          (pieceBytes? rest).map (String.utf8EncodeChar (Char.ofNat code) ++ ·)
        else none
      | _ => none
    else if isLowSurrogate high then none
    else (pieceBytes? rest).map (String.utf8EncodeChar (Char.ofNat high) ++ ·)

/-- The text that pieces stand for, if it is valid Unicode. -/
def pieceText? (pieces : List Piece) : Option String :=
  (pieceBytes? pieces).bind Text.ofUtf8?

end WorkflowGuard.Json
