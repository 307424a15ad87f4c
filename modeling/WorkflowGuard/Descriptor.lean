import WorkflowGuard.Json.Record
import WorkflowGuard.Literal
import WorkflowGuard.Operator

/-!
# Condition descriptors

A descriptor is what the author of a configuration writes for one condition: a role, or a field
with an operator and a value, or both. It is checked only when its rule is compiled, so a bad
descriptor breaks no other rule.
-/

namespace WorkflowGuard

/-- One condition as it is written. -/
structure Descriptor where
  role : Option String := none
  /-- A custom field, or a field computed from time. -/
  field : Option String := none
  /-- The spelling of the operator; equality if it is missing. -/
  operator : Option String := none
  value : Option Literal := none
  deriving Repr, Inhabited, BEq

namespace Descriptor

def ofRole (role : String) : Descriptor :=
  { role := some role }

def ofField (field operator : String) (value : Literal) : Descriptor :=
  { field := some field, operator := some operator, value := some value }

/-- A field must pass a check that takes no value. -/
def ofCheck (field operator : String) : Descriptor :=
  { field := some field, operator := some operator }

def andRole (descriptor : Descriptor) (role : String) : Descriptor :=
  { descriptor with role := some role }

/-- The names of the fields in their order. -/
def fieldNames : List String :=
  ["role", "field", "operator", "value"]

/-- The descriptor as data; what is missing is left out. -/
def toValue (descriptor : Descriptor) : Json.Value :=
  .object ((descriptor.role.map fun role => ("role", Json.Value.text role)).toList ++
    (descriptor.field.map fun field => ("field", Json.Value.text field)).toList ++
    (descriptor.operator.map fun operator => ("operator", Json.Value.text operator)).toList ++
    (descriptor.value.map fun value => ("value", value.toValue)).toList)

/-- Reads a descriptor; `null` stands for a missing part. -/
def ofNode? : Nat → Json.Node → Option Descriptor :=
  Json.Node.record? fieldNames fun depth fields => do
    let role ← Json.Node.fieldOr? fields "role" none (·.optional? (·.text?))
    let field ← Json.Node.fieldOr? fields "field" none (·.optional? (·.text?))
    let operator ← Json.Node.fieldOr? fields "operator" none (·.optional? (·.text?))
    let value ← Json.Node.fieldOr? fields "value" none (·.optional? (Literal.ofNode? depth))
    return { role, field, operator, value }

def listOfNode? : Nat → Json.Node → Option (List Descriptor) :=
  Json.Node.list? ofNode?

end Descriptor

end WorkflowGuard
