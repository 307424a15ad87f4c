import WorkflowGuard.Text.Digits

/-!
# Ticket identifiers

A ticket is identified by 128 bits, written as 32 hexadecimal digits in groups of 8, 4, 4, 4
and 12. They may also be read without the hyphens, and the grouped form between braces or after
`urn:uuid:`. Letters are read in either case, those of `urn:uuid:` included.
-/

namespace WorkflowGuard

/-- The identifier of a ticket. -/
structure TicketId where
  bits : BitVec 128
  deriving DecidableEq, Repr

namespace TicketId

def nil : TicketId :=
  ⟨0⟩

/-- An identifier made of random bits, marked as such in its version and variant. -/
def ofRandom (high low : UInt64) : TicketId :=
  let version :=
    high.toNat / Nat.pow 2 16 * Nat.pow 2 16 + 0x4000 + high.toNat % Nat.pow 2 12
  let variant := Nat.pow 2 63 + low.toNat % Nat.pow 2 62
  ⟨BitVec.ofNat 128 (version * Nat.pow 2 64 + variant)⟩

def ofDigits? (digits : List Char) : Option TicketId := do
  guard (digits.length == 32)
  let values ← digits.mapM Text.hexDigitValue?
  return ⟨BitVec.ofNat 128 (values.foldl (fun bits digit => bits * 16 + digit) 0)⟩

/-- The identifier spelled in groups with hyphens between them. -/
def ofGroups? (text : List Char) : Option TicketId := do
  let hyphens := [8, 13, 18, 23]
  guard (text.length == 36 && hyphens.all fun position => text[position]? == some '-')
  ofDigits? (text.take 8 ++ (text.drop 9).take 4 ++ (text.drop 14).take 4 ++
    (text.drop 19).take 4 ++ text.drop 24)

def read? (text : String) : Option TicketId :=
  let characters := text.toList
  if characters.length = 32 then ofDigits? characters
  else if characters.length = 38 then
    if characters.head? == some '\x7b' && characters.getLast? == some '\x7d' then
      ofGroups? (characters.drop 1).dropLast
    else none
  else if characters.length = 45 then
    if (characters.take 9).map Char.toLower == "urn:uuid:".toList then
      ofGroups? (characters.drop 9)
    else none
  else ofGroups? characters

def digits (id : TicketId) : List Char :=
  (List.range 32).map fun position =>
    Nat.digitChar (id.bits.toNat / Nat.pow 16 (31 - position) % 16)

def write (id : TicketId) : String :=
  let digits := id.digits
  String.ofList (digits.take 8 ++ '-' :: (digits.drop 8).take 4 ++ '-' ::
    (digits.drop 12).take 4 ++ '-' :: (digits.drop 16).take 4 ++ '-' :: digits.drop 20)

end TicketId

end WorkflowGuard
