import Mathlib.Data.List.Forall2
import WorkflowGuard.Proofs.Json.WrittenText
import WorkflowGuard.Text.CaseInsensitive

/-!
# Both comparisons up to letter case agree

Texts in ASCII are compared letter by letter, all others through the lower case of their
characters. On ASCII the lower case of a character is one character, so the two comparisons
ask the same and the choice between them cannot be observed. In particular the relation stays
transitive where a chain passes from one comparison to the other.

A text in ASCII has one octet for each character, and lowering a letter is adding to its octet.
So letter by letter is also octet by octet, with texts of different lengths apart from the
start. Beyond ASCII that would be wrong, since texts of different lengths may agree.
-/

namespace WorkflowGuard.Text

theorem lowercase_of_ascii {character : Char} (ascii : character.toNat < 0x80) :
    lowercase character = [character.toLower] := by
  rw [lowercase]
  exact if_pos ascii

theorem ascii_of_mem {text : String} (ascii : isAscii text = true) {character : Char}
    (member : character ∈ text.toList) : character.toNat < 0x80 := by
  rw [isAscii, List.all_eq_true] at ascii
  simpa using ascii character member

/-- A map that gives one value for each character of the text goes through it in step. -/
theorem flatMap_of_isAscii {β : Type} {text : String} (ascii : isAscii text = true)
    {expand : Char → List β} {single : Char → β}
    (expands : ∀ character : Char, character.toNat < 0x80 →
      expand character = [single character]) :
    text.toList.flatMap expand = text.toList.map single := by
  have pointwise : text.toList.map expand = text.toList.map fun character =>
      [single character] := by
    apply List.map_congr_left
    intro character member
    exact expands character (ascii_of_mem ascii member)
  rw [List.flatMap_def, pointwise, ← List.flatMap_def, ← List.map_eq_flatMap]

/-- On ASCII text the two ways of lowering agree. -/
theorem lowercaseAll_of_isAscii {text : String} (ascii : isAscii text = true) :
    lowercaseAll text = asciiLower text :=
  flatMap_of_isAscii ascii fun _ => lowercase_of_ascii

theorem equalIgnoringAsciiCase_iff {left right : String} :
    equalIgnoringAsciiCase left right = true ↔ asciiLower left = asciiLower right := by
  rw [equalIgnoringAsciiCase]
  rw [beq_iff_eq]

/-- The comparison is that of the lowercase forms, on either path. -/
theorem equalIgnoringCase_iff {left right : String} :
    equalIgnoringCase left right = true ↔ lowercaseAll left = lowercaseAll right := by
  rw [equalIgnoringCase]
  split
  · rename_i bothAscii
    rw [Bool.and_eq_true] at bothAscii
    rw [lowercaseAll_of_isAscii bothAscii.1, lowercaseAll_of_isAscii bothAscii.2,
      equalIgnoringAsciiCase_iff]
  · rw [beq_iff_eq]

/-- The octet of a character in ASCII. -/
def octet (character : Char) : UInt8 :=
  UInt8.ofNat character.toNat

/-- An octet with `A` to `Z` in lower case. -/
def lowerOctet (value : UInt8) : UInt8 :=
  if 0x41 ≤ value ∧ value ≤ 0x5A then value + 0x20 else value

theorem utf8_of_isAscii {text : String} (ascii : isAscii text = true) :
    utf8 text = text.toList.map octet := by
  rw [Json.utf8_eq_octets, Json.octets]
  exact flatMap_of_isAscii ascii fun _ => Json.utf8EncodeChar_ascii

theorem octet_inj {left right : Char} (asciiLeft : left.toNat < 0x80)
    (asciiRight : right.toNat < 0x80) : octet left = octet right ↔ left = right := by
  have toNat_octet {character : Char} (ascii : character.toNat < 0x80) :
      (octet character).toNat = character.toNat :=
    UInt8.toNat_ofNat_of_lt' (show character.toNat < 0x100 by omega)
  rw [← UInt8.toNat_inj, toNat_octet asciiLeft, toNat_octet asciiRight, Char.toNat_inj]

/-- In ASCII the lower case of a letter is again in ASCII, and its octet is lowered. -/
theorem toLower_of_ascii {character : Char} (ascii : character.toNat < 0x80) :
    character.toLower.toNat < 0x80 ∧ octet character.toLower = lowerOctet (octet character) := by
  have all : ∀ code : Fin 0x80, (Char.ofNat code).toLower.toNat < 0x80 ∧
      octet (Char.ofNat code).toLower = lowerOctet (octet (Char.ofNat code)) := by
    decide +kernel
  simpa using all ⟨character.toNat, ascii⟩

theorem lowerOctet_eq_iff {left right : Char} (asciiLeft : left.toNat < 0x80)
    (asciiRight : right.toNat < 0x80) :
    lowerOctet (octet left) = lowerOctet (octet right) ↔ left.toLower = right.toLower := by
  have lowerLeft := toLower_of_ascii asciiLeft
  have lowerRight := toLower_of_ascii asciiRight
  rw [← lowerLeft.2, ← lowerRight.2, octet_inj lowerLeft.1 lowerRight.1]

/-- The texts have equally many octets, and in each place the same up to the case of a letter. -/
def SameOctets (left right : Bytes) : Prop :=
  List.Forall₂ (fun leftOctet rightOctet => lowerOctet leftOctet = lowerOctet rightOctet) left
    right

/-- Comparing octets up to the case bit is comparing lowered characters. -/
theorem sameOctets_iff {left right : List Char}
    (asciiLeft : ∀ character ∈ left, character.toNat < 0x80)
    (asciiRight : ∀ character ∈ right, character.toNat < 0x80) :
    SameOctets (left.map octet) (right.map octet) ↔
      left.map Char.toLower = right.map Char.toLower := by
  induction left generalizing right with
  | nil => cases right <;> simp [SameOctets]
  | cons first rest ih =>
      cases right with
      | nil => simp [SameOctets]
      | cons other others =>
          rw [List.forall_mem_cons] at asciiLeft asciiRight
          rw [List.map_cons, List.map_cons, SameOctets, List.forall₂_cons,
            lowerOctet_eq_iff asciiLeft.1 asciiRight.1, List.map_cons, List.map_cons,
            List.cons.injEq, ← ih asciiLeft.2 asciiRight.2, SameOctets]

theorem equalIgnoringCase_iff_sameOctets {left right : String} (asciiLeft : isAscii left = true)
    (asciiRight : isAscii right = true) :
    equalIgnoringCase left right = true ↔ SameOctets (utf8 left) (utf8 right) := by
  rw [equalIgnoringCase_iff, lowercaseAll_of_isAscii asciiLeft,
    lowercaseAll_of_isAscii asciiRight, utf8_of_isAscii asciiLeft, utf8_of_isAscii asciiRight]
  exact (sameOctets_iff (fun _ => ascii_of_mem asciiLeft) fun _ => ascii_of_mem asciiRight).symm

theorem equalIgnoringCase_equivalence :
    Equivalence fun left right => equalIgnoringCase left right = true := by
  simp only [equalIgnoringCase_iff]
  exact InvImage.equivalence Eq lowercaseAll eq_equivalence

/-- The relation compares the lower case of texts, in whichever way it is decided. -/
structure ComparesLowercase (equal : String → String → Bool) : Prop where
  lowercase_iff : ∀ left right, equal left right = true ↔
    left.toList.flatMap lowercase = right.toList.flatMap lowercase
  /-- Of texts in ASCII it is enough to compare the octets in their places. -/
  octets_iff : ∀ left right, isAscii left = true → isAscii right = true →
    (equal left right = true ↔ SameOctets (utf8 left) (utf8 right))
  /-- A chain of equal texts may mix texts in ASCII with others. -/
  equivalence : Equivalence fun left right => equal left right = true

/-- Which of the two comparisons is chosen cannot be observed. -/
theorem equalIgnoringCase_comparesLowercase : ComparesLowercase equalIgnoringCase where
  lowercase_iff _ _ := equalIgnoringCase_iff
  octets_iff _ _ := equalIgnoringCase_iff_sameOctets
  equivalence := equalIgnoringCase_equivalence

/-- The Kelvin sign is beyond ASCII and its lower case is a letter of ASCII; a capital I with a dot
has a lower case of two characters. -/
example :
    equalIgnoringCase "K" "\u212A" = true ∧ equalIgnoringCase "\u212A" "k" = true ∧
      equalIgnoringCase "\u0130D" "i\u0307d" = true ∧
      equalIgnoringCase "\u00E9cole" "ecole" = false := by
  decide +kernel

end WorkflowGuard.Text
