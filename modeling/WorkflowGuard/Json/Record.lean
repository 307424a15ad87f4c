import WorkflowGuard.Json.Node

/-!
# Records, lists and dictionaries in JSON

A record is written as an object of its fields, in any order, or as an array of its fields in
their order. In an object unknown members are skipped, whatever they hold, and a known name
must not repeat; in an array fields at the end may be missing. A list is an array. A dictionary
is an object in which the last value of a repeated name counts. Each array or object uses up
one level of the permitted depth, which is the first argument of every reader.
-/

namespace WorkflowGuard.Json.Node

/-- The members with their names, if all names have content. -/
def namedMembers? : List (Option String × Node) → Option (List (String × Node))
  | [] => some []
  | (name, member) :: rest =>
    match name, namedMembers? rest with
    | some name, some members => some ((name, member) :: members)
    | _, _ => none

/-- The fields that are present in a record with the given field names. -/
def fields? (names : List String) : Node → Option (List (String × Node))
  | array elements =>
    if elements.length ≤ names.length then some (names.zip elements) else none
  | object members =>
    match namedMembers? members with
    | some members =>
      let known := members.filter fun member => names.contains member.1
      if (known.map Prod.fst).Nodup then some known else none
    | none => none
  | _ => none

/-- Reads a record: its fields, and a reader that sees them one level deeper. -/
def record? {α : Type} (names : List String)
    (read : Nat → List (String × Node) → Option α) (depth : Nat) (node : Node) : Option α :=
  match depth, node.fields? names with
  | depth + 1, some fields => read depth fields
  | _, _ => none

def list? {α : Type} (read : Nat → Node → Option α) (depth : Nat) (node : Node) :
    Option (List α) :=
  match depth, node with
  | depth + 1, array elements => elements.mapM (read depth)
  | _, _ => none

def dict? {α : Type} (read : Nat → Node → Option α) (depth : Nat) (node : Node) :
    Option (Dict α) :=
  match depth, node with
  | depth + 1, object members => do
    let members ← namedMembers? members
    let pairs ← members.mapM fun member => (read depth member.2).map (member.1, ·)
    return Dict.ofPairs pairs
  | _, _ => none

def text? : Node → Option String
  | text content => content
  | _ => none

def float? : Node → Option Float
  | number content => content.map Number.toFloat
  | _ => none

def optional? {α : Type} (read : Node → Option α) : Node → Option (Option α)
  | null => some none
  | node => (read node).map some

def required? {α : Type} (fields : List (String × Node)) (name : String)
    (read : Node → Option α) : Option α :=
  (fields.lookup name).bind read

/-- Reads a field, or takes the given value if the field is absent. -/
def fieldOr? {α : Type} (fields : List (String × Node)) (name : String) (absent : α)
    (read : Node → Option α) : Option α :=
  match fields.lookup name with
  | some node => read node
  | none => some absent

end WorkflowGuard.Json.Node
