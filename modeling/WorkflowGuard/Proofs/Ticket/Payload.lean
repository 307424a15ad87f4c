import WorkflowGuard.Proofs.Text.CaseInsensitive
import WorkflowGuard.Ticket
import WorkflowGuard.CustomFields

/-!
# What the payload of a ticket says

A payload is a text, and what it says under a name is what the JSON object that it spells has
under that name. Any other payload says nothing. This is stated here of the text itself, without
the view that a predicate takes of a payload, and the readings of data as a number, a truth value
or a text are stated of the data.

The view is then shown to deliver the same (`find?_ofPayload`). It gives up early on a payload of
white space, which no other payload could tell apart from an object only by its opening brace:
there is none among the octets of white space, while every object has one.
-/

namespace WorkflowGuard

/-- What a payload says under a name: JSON data or nothing. -/
abbrev Stored := Option Json.Value

namespace Stored

/-- The member of a name in the object that the payload spells. -/
def ofPayload (payload name : String) : Stored :=
  match Json.Value.read? (Text.utf8 payload) with
  | some (.object members) => members.lookup name
  | _ => none

def ofTicket (ticket : Ticket) (name : String) : Stored :=
  ofPayload ticket.payload name

/-- A payload that spells no object says nothing. -/
theorem ofPayload_of_not_object {payload : String}
    (noObject : ∀ members, Json.Value.read? (Text.utf8 payload) ≠ some (.object members))
    (name : String) : ofPayload payload name = none := by
  rw [ofPayload]
  split
  case h_1 members read => exact absurd read (noObject members)
  case h_2 => rfl

theorem ofPayload_emptyPayload (name : String) : ofPayload Ticket.emptyPayload name = none := by
  have noMembers : Json.Value.read? (Text.utf8 Ticket.emptyPayload) = some (.object []) := rfl
  rw [ofPayload, noMembers]
  rfl

/-- There is nothing, `null`, or a text of white space. -/
def Missing : Stored → Prop
  | none | some .null => True
  | some (.text value) => ∀ character ∈ value.toList, Text.isSpace character = true
  | some _ => False

def number : Stored → Float
  | some (.number value) => value.toFloat
  | _ => 0

/-- What is stored is the truth value true, or the word for it. -/
def IsTrue : Stored → Prop
  | some (.bool value) => value = true
  | some (.text value) => Text.asciiLower (Text.trim value) = "true".toList
  | _ => False

def IsText (stored : Stored) (expected : String) : Prop :=
  ∃ actual, stored = some (.text actual) ∧
    Text.lowercaseAll actual = Text.lowercaseAll expected

end Stored

section Blank

/-- An object starts with a brace, somewhere behind white space. -/
theorem Json.brace_mem_of_readNode {fuel : Nat} {bytes rest : Bytes}
    {members : List (Option String × Node)}
    (read : readNode fuel bytes = some (.object members, rest)) : 0x7B ∈ bytes := by
  have inBytes : ∀ octet ∈ skipLayout bytes, octet ∈ bytes :=
    fun octet member => (List.dropWhile_sublist isLayout).subset member
  cases fuel with
  | zero => cases read
  | succ fuel =>
      rw [readNode] at read
      split at read
      case h_6 start => exact inBytes _ (start ▸ List.mem_cons_self)
      case h_5 =>
        split at read
        · cases read
        · rcases Option.map_eq_some_iff.mp read with ⟨_, _, same⟩
          cases same
      all_goals
        first
        | cases read
        | rcases Option.map_eq_some_iff.mp read with ⟨_, _, same⟩
          cases same

theorem Json.brace_mem_of_read? {bytes : Bytes} {members : List (String × Value)}
    (read : Value.read? bytes = some (.object members)) : 0x7B ∈ bytes := by
  rcases Option.bind_eq_some_iff.mp read with ⟨node, tree, content⟩
  rw [Node.read?] at tree
  split at tree
  case h_2 => cases tree
  case h_1 node' rest found =>
    split at tree
    · cases tree
      cases node with
      | object members => exact brace_mem_of_readNode found
      | null => cases content
      | bool value => cases content
      | number number => cases number <;> cases content
      | text text => cases text <;> cases content
      | array elements =>
          rw [Node.value?] at content
          split at content
          · cases content
          · rcases Option.map_eq_some_iff.mp content with ⟨_, _, same⟩
            cases same
    · cases tree

/-- White space has no brace among its octets. -/
theorem Text.brace_not_mem_utf8_of_blank {text : String} (blank : Blank text) :
    0x7B ∉ utf8 text := by
  rw [Json.utf8_eq_octets, Json.octets, List.mem_flatMap]
  rintro ⟨character, member, brace⟩
  have space := blank character member
  rcases Nat.lt_or_ge character.toNat 0x80 with ascii | beyond
  · rw [Json.utf8EncodeChar_ascii ascii, List.mem_singleton] at brace
    have octet : character.toNat < 0x100 := Nat.lt_of_lt_of_le ascii (by decide)
    have code : character.toNat = 0x7B := by
      have sameNat := congrArg UInt8.toNat brace
      rw [UInt8.toNat_ofNat_of_lt' octet] at sameNat
      exact sameNat.symm
    rw [isSpace, code] at space
    exact absurd space (by decide)
  · have high := Json.utf8EncodeChar_beyond_ascii beyond _ brace
    exact absurd high (by decide)

/-- A payload of white space spells no object. -/
theorem Stored.ofPayload_of_blank {payload : String} (blank : Text.Blank payload)
    (name : String) : ofPayload payload name = none :=
  ofPayload_of_not_object (fun _ read =>
    Text.brace_not_mem_utf8_of_blank blank (Json.brace_mem_of_read? read)) name

end Blank

/-- A text reads as true just when it spells `true`, with white space and letter case aside. -/
theorem Text.truthValue?_getD_iff (text : String) :
    (truthValue? text).getD false = true ↔ asciiLower (trim text) = "true".toList := by
  have trueWord : asciiLower "true" = "true".toList := rfl
  rw [← trueWord, ← equalIgnoringAsciiCase_iff]
  by_cases isTrue : equalIgnoringAsciiCase (trim text) "true" = true
  · simp [truthValue?, isTrue]
  · by_cases isFalse : equalIgnoringAsciiCase (trim text) "false" = true
    · simp [truthValue?, isTrue, isFalse]
    · simp [truthValue?, isTrue, isFalse]

namespace CustomFields

/-- The view of a payload delivers what the payload says, under every name. -/
theorem find?_ofPayload (payload name : String) :
    (ofPayload payload).find? name = Stored.ofPayload payload name := by
  rw [ofPayload]
  split
  case isTrue blank =>
    rw [Stored.ofPayload_of_blank (Text.isBlank_iff.mp blank)]
    rfl
  case isFalse =>
    rw [Stored.ofPayload]
    cases Json.Value.read? (Text.utf8 payload) with
    | none => rfl
    | some value =>
        cases value with
        | object members => exact Assoc.find?_eq_lookup name members
        | null => rfl
        | bool value => rfl
        | number value => rfl
        | text value => rfl
        | array elements => rfl

theorem number_ofPayload (ticket : Ticket) (key : String) :
    (ofPayload ticket.payload).number key = (Stored.ofTicket ticket key).number := by
  rw [number, find?_ofPayload, Stored.ofTicket]
  cases Stored.ofPayload ticket.payload key with
  | none => rfl
  | some value => cases value <;> rfl

/-- A custom field is blank just when nothing is stored, or `null`, or a text of white space. -/
theorem isBlank_ofPayload_iff (ticket : Ticket) (key : String) :
    (ofPayload ticket.payload).isBlank key = true ↔ (Stored.ofTicket ticket key).Missing := by
  rw [isBlank, find?_ofPayload, Stored.ofTicket]
  cases Stored.ofPayload ticket.payload key with
  | none => simp [Stored.Missing]
  | some value => cases value <;> simp [Stored.Missing, Text.isBlank]

theorem truth_ofPayload_iff (ticket : Ticket) (key : String) :
    (ofPayload ticket.payload).truth key = true ↔ (Stored.ofTicket ticket key).IsTrue := by
  rw [truth, find?_ofPayload, Stored.ofTicket]
  cases Stored.ofPayload ticket.payload key with
  | none => simp [Stored.IsTrue]
  | some value =>
      cases value with
      | text word =>
          simp only [Stored.IsTrue, Text.truthValue?_getD_iff]
      | null => simp [Stored.IsTrue]
      | bool value => simp [Stored.IsTrue]
      | number value => simp [Stored.IsTrue]
      | array elements => simp [Stored.IsTrue]
      | object members => simp [Stored.IsTrue]

/-- A custom field is the expected text just when such a text is stored, up to letter case. -/
theorem text_ofPayload_iff (ticket : Ticket) (key expected : String) :
    ((ofPayload ticket.payload).text? key).any (Text.equalIgnoringCase · expected) = true ↔
      (Stored.ofTicket ticket key).IsText expected := by
  rw [text?, find?_ofPayload, Stored.ofTicket, Stored.IsText]
  cases Stored.ofPayload ticket.payload key with
  | none => simp
  | some value =>
      cases value <;> simp [Json.Value.text?, Text.equalIgnoringCase_iff]

end CustomFields

end WorkflowGuard
