import WorkflowGuard.Json.Reader
import WorkflowGuard.Text.Truth

/-!
# Custom fields of a ticket

A ticket carries a payload that should be a JSON object. No reading of it fails: a payload that
is anything else has no fields, and a field that is missing or of another kind reads as zero,
as false, or as no text.
-/

namespace WorkflowGuard

/-- The fields of a payload, by ascending name. -/
structure CustomFields where
  members : List (String × Json.Value)
  deriving Repr, Inhabited

namespace CustomFields

def empty : CustomFields :=
  ⟨[]⟩

def ofPayload (payload : String) : CustomFields :=
  if Text.isBlank payload then empty
  else
    match Json.Value.read? (Text.utf8 payload) with
    | some (.object members) => ⟨members⟩
    | _ => empty

/-- The data under a name. -/
def find? (fields : CustomFields) (name : String) : Option Json.Value :=
  Assoc.find? name fields.members

/-- The field as a number; zero unless it is one. -/
def number (fields : CustomFields) (name : String) : Float :=
  ((fields.find? name).bind Json.Value.float?).getD 0

/-- The field as a text, if it is one. -/
def text? (fields : CustomFields) (name : String) : Option String :=
  (fields.find? name).bind Json.Value.text?

/-- The field as a truth value; a text counts if it names one. -/
def truth (fields : CustomFields) (name : String) : Bool :=
  match fields.find? name with
  | some (.bool value) => value
  | some (.text value) => (Text.truthValue? value).getD false
  | _ => false

/-- The field is missing, `null`, or a text of white space. -/
def isBlank (fields : CustomFields) (name : String) : Bool :=
  match fields.find? name with
  | none | some .null => true
  | some (.text value) => Text.isBlank value
  | some _ => false

def size (fields : CustomFields) : Nat :=
  fields.members.length

end CustomFields

end WorkflowGuard
