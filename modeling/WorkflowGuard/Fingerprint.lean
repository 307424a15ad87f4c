import WorkflowGuard.Fingerprint.Blake3

/-!
# Fingerprints of documents

The fingerprint of a document is the BLAKE3 hash of its bytes, shown as 64 hexadecimal digits.
-/

namespace WorkflowGuard

/-- The fingerprint of a sequence of octets. -/
structure Fingerprint where
  words : Blake3.Words
  deriving DecidableEq

namespace Fingerprint

def ofBytes (bytes : Bytes) : Fingerprint :=
  ⟨Blake3.hash bytes⟩

/-- The eight hexadecimal digits of the octets of a word, the lowest octet first. -/
def wordDigits (word : UInt32) : List Char :=
  [4, 0, 12, 8, 20, 16, 28, 24].map fun shift => Nat.digitChar (word.toNat / Nat.pow 2 shift % 16)

/-- The fingerprint in lower-case hexadecimal. -/
def hex (fingerprint : Fingerprint) : String :=
  String.ofList (fingerprint.words.toList.flatMap wordDigits)

end Fingerprint

end WorkflowGuard
