import WorkflowGuard.Dict
import WorkflowGuard.Json.Number

/-!
# JSON values

A `Value` is JSON data. The members of an object have an order, which is the order they are
written in: values read from a text have their members in ascending order of the names, each
name once, while the library's own records keep the order of their fields.
-/

namespace WorkflowGuard.Json

/-- A piece of JSON data. -/
inductive Value where
  | null
  | bool (value : Bool)
  | number (value : Number)
  | text (value : String)
  | array (elements : List Value)
  | object (members : List (String × Value))
  deriving Repr, Inhabited

namespace Value

mutual

/-- Equality of data; numbers are compared by `Number.same`. -/
def same : Value → Value → Bool
  | null, null => true
  | bool left, bool right => left == right
  | number left, number right => left == right
  | text left, text right => left == right
  | array left, array right => sameElements left right
  | object left, object right => sameMembers left right
  | _, _ => false

def sameElements : List Value → List Value → Bool
  | [], [] => true
  | left :: lefts, right :: rights => same left right && sameElements lefts rights
  | _, _ => false

def sameMembers : List (String × Value) → List (String × Value) → Bool
  | [], [] => true
  | (leftName, left) :: lefts, (rightName, right) :: rights =>
    leftName == rightName && same left right && sameMembers lefts rights
  | _, _ => false

end

instance : BEq Value :=
  ⟨same⟩

def text? : Value → Option String
  | text value => some value
  | _ => none

/-- The number as a double, if the value is one. -/
def float? : Value → Option Float
  | number value => some value.toFloat
  | _ => none

end Value

end WorkflowGuard.Json
