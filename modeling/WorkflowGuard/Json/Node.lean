import WorkflowGuard.Json.Value

/-!
# Syntax trees of JSON texts

A `Node` is what a JSON text is made of before anyone asks for its content. A numeral beyond
the doubles, and a text that is not valid Unicode, are well formed as long as nobody uses them:
such a leaf, or such a name of a member, has no content. Names may repeat, and the tree may be
of any depth.
-/

namespace WorkflowGuard.Json

/-- A part of a JSON text. -/
inductive Node where
  | null
  | bool (value : Bool)
  /-- A number; nothing for one beyond the doubles. -/
  | number (content : Option Number)
  /-- A text; nothing for one that is not valid Unicode. -/
  | text (content : Option String)
  | array (elements : List Node)
  | object (members : List (Option String × Node))
  deriving Repr, Inhabited

namespace Node

mutual

def ofValue : Value → Node
  | .null => null
  | .bool value => bool value
  | .number value => number (some value)
  | .text value => text (some value)
  | .array elements => array (ofElements elements)
  | .object members => object (ofMembers members)

/-- The trees of the elements of an array. -/
def ofElements : List Value → List Node
  | [] => []
  | element :: rest => ofValue element :: ofElements rest

/-- The trees of the members of an object. -/
def ofMembers : List (String × Value) → List (Option String × Node)
  | [] => []
  | (name, value) :: rest => (some name, ofValue value) :: ofMembers rest

end

mutual

/-- The data of a tree whose arrays and objects are nested at most `depth` deep and all of
whose leaves and names have content. Of a repeated name the last member counts. -/
def value? (depth : Nat) : Node → Option Value
  | null => some .null
  | bool value => some (.bool value)
  | number content => content.map .number
  | text content => content.map .text
  | array elements =>
    if depth = 0 then none
    else (elementValues? (depth - 1) elements).map .array
  | object members =>
    if depth = 0 then none
    else (memberValues? (depth - 1) members).map fun pairs => .object (Assoc.ofPairs pairs)

def elementValues? (depth : Nat) : List Node → Option (List Value)
  | [] => some []
  | element :: rest =>
    match value? depth element, elementValues? depth rest with
    | some value, some values => some (value :: values)
    | _, _ => none

/-- The name and the data of each member. -/
def memberValues? (depth : Nat) : List (Option String × Node) → Option (List (String × Value))
  | [] => some []
  | (name, member) :: rest =>
    match name, value? depth member, memberValues? depth rest with
    | some name, some value, some pairs => some ((name, value) :: pairs)
    | _, _, _ => none

end

end Node

end WorkflowGuard.Json
