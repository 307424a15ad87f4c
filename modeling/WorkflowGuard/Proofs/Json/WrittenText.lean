import WorkflowGuard.Json.Reader
import WorkflowGuard.Json.Writer

/-!
# Written texts read back

A text is written character by character, and each character is read on its own, whatever
follows it: `Spells` says so of any characters between the quotes, and it is closed under
concatenation. Characters beyond ASCII are made of octets that are neither a quote, a backslash
nor a control character, so they stand for themselves. The escapes remain, one fact each.
-/

namespace WorkflowGuard.Json

/-- The octets of a sequence of characters. -/
def octets (characters : List Char) : Bytes :=
  characters.flatMap String.utf8EncodeChar

@[simp]
theorem octets_nil : octets [] = [] :=
  rfl

theorem octets_cons (character : Char) (rest : List Char) :
    octets (character :: rest) = String.utf8EncodeChar character ++ octets rest := by
  simp [octets]

theorem octets_append (front back : List Char) :
    octets (front ++ back) = octets front ++ octets back := by
  simp [octets]

theorem utf8_ofList (characters : List Char) :
    Text.utf8 (String.ofList characters) = octets characters := by
  simp [Text.utf8, octets, List.utf8Encode]

theorem utf8_eq_octets (text : String) : Text.utf8 text = octets text.toList := by
  rw [← utf8_ofList, String.ofList_toList]

theorem utf8EncodeChar_ascii {character : Char} (ascii : character.toNat < 0x80) :
    String.utf8EncodeChar character = [UInt8.ofNat character.toNat] := by
  unfold String.utf8EncodeChar
  exact if_pos (Nat.le_of_lt_succ ascii)

/-- The octets of any other character lie beyond ASCII, so none of them ends a text. -/
theorem utf8EncodeChar_beyond_ascii {character : Char} (beyond : 0x80 ≤ character.toNat) :
    ∀ octet ∈ String.utf8EncodeChar character, 0x80 ≤ octet := by
  have high {value : Nat} (low : 0x80 ≤ value) (bound : value < 0x100) :
      0x80 ≤ UInt8.ofNat value := by
    rw [UInt8.le_iff_toNat_le, UInt8.toNat_ofNat_of_lt' bound]
    exact low
  intro octet mem
  unfold String.utf8EncodeChar at mem
  change octet ∈ (if character.toNat ≤ 127 then _ else _) at mem
  rw [if_neg (by omega)] at mem
  -- Each length of the encoding is a case, each of its octets carries a mark of its own.
  split at mem
  all_goals try split at mem
  all_goals
    simp only [List.mem_cons, List.not_mem_nil, or_false] at mem
    rcases mem with rfl | rfl | rfl | rfl
    all_goals exact high (by omega) (by omega)

theorem hexDigit_reads_back {digit : Nat} (small : digit < 16) :
    ∃ octet, String.utf8EncodeChar (hexDigit digit) = [octet] ∧ hexValue? octet = some digit := by
  have all : ∀ value : Fin 16,
      String.utf8EncodeChar (hexDigit value) = [(hexDigit value).toNat.toUInt8] ∧
        hexValue? (hexDigit value).toNat.toUInt8 = some value.val := by
    decide
  exact ⟨_, all ⟨digit, small⟩⟩

/-- What stands between the quotes of a text is read as the given octets, whatever follows. -/
def Spells (written content : Bytes) : Prop :=
  ∃ pieces,
    (∀ rest, readPieces (written ++ rest) =
      (readPieces rest).map fun (later, tail) => (pieces ++ later, tail)) ∧
    ∀ later, pieceBytes? (pieces ++ later) = (pieceBytes? later).map (content ++ ·)

namespace Spells

theorem nil : Spells [] [] :=
  ⟨[], by simp, by simp⟩

theorem append {front back frontContent backContent : Bytes}
    (frontSpells : Spells front frontContent) (backSpells : Spells back backContent) :
    Spells (front ++ back) (frontContent ++ backContent) := by
  rcases frontSpells with ⟨frontPieces, readFront, frontBytes⟩
  rcases backSpells with ⟨backPieces, readBack, backBytes⟩
  refine ⟨frontPieces ++ backPieces, fun rest => ?_, fun later => ?_⟩
  · rw [List.append_assoc, readFront, readBack]
    cases readPieces rest <;> simp
  · rw [List.append_assoc, frontBytes, backBytes]
    cases pieceBytes? later <;> simp

/-- An octet that is no quote, no backslash and no control character stands for itself. -/
theorem octet {value : UInt8} (noQuote : value ≠ 0x22) (noBackslash : value ≠ 0x5C)
    (noControl : ¬value < 0x20) : Spells [value] [value] := by
  refine ⟨[.octet value], fun rest => ?_, fun later => by simp [pieceBytes?]⟩
  rw [List.singleton_append, readPieces.eq_def]
  simp only [if_neg noQuote, if_neg noBackslash, if_neg noControl]
  cases readPieces rest <;> rfl

theorem octets_beyond_ascii {bytes : Bytes} (beyond : ∀ value ∈ bytes, 0x80 ≤ value) :
    Spells bytes bytes := by
  induction bytes with
  | nil => exact nil
  | cons value rest ih =>
      have high : 0x80 ≤ value := beyond value List.mem_cons_self
      have first : Spells [value] [value] := octet (by grind) (by grind) (by grind)
      exact first.append (ih fun later mem => beyond later (List.mem_cons_of_mem _ mem))

theorem shortEscape {letter value : UInt8} (escape : shortEscape? letter = some value) :
    Spells [0x5C, letter] [value] := by
  have noUnit : letter ≠ 0x75 := by
    rintro rfl
    have none : shortEscape? 0x75 = none := by decide
    rw [none] at escape
    cases escape
  refine ⟨[.octet value], fun rest => ?_, fun later => by simp [pieceBytes?]⟩
  rw [List.cons_append, List.cons_append, List.nil_append,
    readPieces.eq_3 _ _ _ fun _ _ _ _ _ isUnit => absurd isUnit noUnit, escape]
  cases readPieces rest <;> rfl

/-- A control character, written by its number in four hexadecimal digits. -/
theorem control {code : Nat} (small : code < 0x20) :
    Spells (octets ['\\', 'u', '0', '0', hexDigit (code / 16), hexDigit (code % 16)])
      (String.utf8EncodeChar (Char.ofNat code)) := by
  rcases hexDigit_reads_back (show code / 16 < 16 by omega) with ⟨high, highWritten, highRead⟩
  rcases hexDigit_reads_back (show code % 16 < 16 by omega) with ⟨low, lowWritten, lowRead⟩
  have written : octets ['\\', 'u', '0', '0', hexDigit (code / 16), hexDigit (code % 16)] =
      [0x5C, 0x75, 0x30, 0x30, high, low] := by
    simp only [octets_cons, octets_nil, highWritten, lowWritten]
    rfl
  have unit : unitValue? 0x30 0x30 high low = some code := by
    have zero : hexValue? 0x30 = some 0 := by decide
    simp only [unitValue?, zero, highRead, lowRead, Option.bind_eq_bind, Option.bind_some,
      Option.pure_def]
    congr 1
    omega
  refine ⟨[.unit code], fun rest => ?_, fun later => ?_⟩
  · rw [written]
    simp only [List.cons_append, List.nil_append, readPieces.eq_2, unit]
    cases readPieces rest <;> rfl
  · have noHigh : isHighSurrogate code = false := by
      simp only [isHighSurrogate, Bool.and_eq_false_iff, decide_eq_false_iff_not]
      omega
    have noLow : isLowSurrogate code = false := by
      simp only [isLowSurrogate, Bool.and_eq_false_iff, decide_eq_false_iff_not]
      omega
    rw [List.singleton_append, pieceBytes?.eq_def]
    simp [noHigh, noLow]

/-- A character that is no quote, no backslash and no control character stands for itself. -/
theorem plain {character : Char} (noQuote : character ≠ '"') (noBackslash : character ≠ '\\')
    (noControl : ¬character.toNat < 0x20) :
    Spells (String.utf8EncodeChar character) (String.utf8EncodeChar character) := by
  by_cases ascii : character.toNat < 0x80
  · have toNat_octet {code : Nat} (small : code < 0x80) : (UInt8.ofNat code).toNat = code :=
      UInt8.toNat_ofNat_of_lt' (show code < 0x100 by omega)
    have differs {other : Char} (otherAscii : other.toNat < 0x80) (distinct : character ≠ other) :
        UInt8.ofNat character.toNat ≠ UInt8.ofNat other.toNat := by
      intro equal
      have same := congrArg UInt8.toNat equal
      rw [toNat_octet ascii, toNat_octet otherAscii] at same
      exact distinct (Char.toNat_inj.mp same)
    rw [utf8EncodeChar_ascii ascii]
    refine octet (differs (by decide) noQuote) (differs (by decide) noBackslash) ?_
    rw [UInt8.lt_iff_toNat_lt, toNat_octet ascii]
    exact noControl
  · exact octets_beyond_ascii (utf8EncodeChar_beyond_ascii (by omega))

/-- Every character is written as a spelling of itself. -/
theorem character (character : Char) :
    Spells (octets (escapedChar character)) (String.utf8EncodeChar character) := by
  unfold escapedChar
  split
  iterate 7 exact shortEscape (by decide)
  split
  next small =>
      have spelled := control small
      rwa [Char.ofNat_toNat] at spelled
  next noQuote noBackslash _ _ _ _ _ noControl =>
      rw [octets_cons, octets_nil, List.append_nil]
      exact plain noQuote noBackslash noControl

theorem characters (content : List Char) :
    Spells (octets (content.flatMap escapedChar)) (octets content) := by
  induction content with
  | nil => exact nil
  | cons first rest ih =>
      rw [List.flatMap_cons, octets_append, octets_cons]
      exact (character first).append ih

end Spells

/-- A written text, whose opening quote has been read, is read as itself up to its closing
quote. -/
theorem readText?_written (text : String) (rest : Bytes) :
    readText? (octets (text.toList.flatMap escapedChar ++ ['"']) ++ rest) =
      some (some text, rest) := by
  rcases Spells.characters text.toList with ⟨pieces, readAll, content⟩
  have closed : readPieces (octets (text.toList.flatMap escapedChar ++ ['"']) ++ rest) =
      some (pieces, rest) := by
    have quote : readPieces (octets ['"'] ++ rest) = some ([], rest) := by
      change readPieces (0x22 :: rest) = some ([], rest)
      rw [readPieces.eq_def]
      rfl
    rw [octets_append, List.append_assoc, readAll, quote]
    simp
  have bytes : pieceBytes? pieces = some (Text.utf8 text) := by
    have whole := content []
    simpa [pieceBytes?, utf8_eq_octets] using whole
  have isText : pieceText? pieces = some text := by
    rw [pieceText?, bytes, Option.bind_some, Text.ofUtf8?_utf8]
  simp only [readText?, closed, Option.map_some, isText]

end WorkflowGuard.Json
