import WorkflowGuard.Decimal.Reading
import WorkflowGuard.Json.Node
import WorkflowGuard.Json.Writer
import WorkflowGuard.Text.Quoted
import WorkflowGuard.Text.Truth

/-!
# Literals of conditions

The value that a condition compares a field with is untyped: the author may write `10` or
`"10"`, `true` or `"TRUE"`. A literal has up to three readings, as a number, as a truth value
and as a text, and the first that exists decides how the field is compared. Arrays, objects and
a bare `null` have none of them; they are kept so that only their own rule fails.
-/

namespace WorkflowGuard

/-- The value of a condition. -/
inductive Literal where
  | bool (value : Bool)
  | number (value : Float)
  | text (value : String)
  /-- Data without a reading. -/
  | structured (value : Json.Value)
  deriving Repr, Inhabited

namespace Literal

/-- Literals of one kind with equal content; not-a-number differs from itself. -/
def same : Literal → Literal → Bool
  | bool left, bool right => left == right
  | number left, number right => left == right
  | text left, text right => left == right
  | structured left, structured right => left == right
  | _, _ => false

instance : BEq Literal :=
  ⟨same⟩

/-- The reading as a finite number: a number, or a decimal number between white space. -/
def number? : Literal → Option Float
  | number value => if value.isFinite then some value else none
  | text value => (Decimal.read? (Text.trim value).toList).filter Float.isFinite
  | bool _ | structured _ => none

def truth? : Literal → Option Bool
  | bool value => some value
  | text value => Text.truthValue? value
  | number _ | structured _ => none

def text? : Literal → Option String
  | text value => some value
  | number value => some (Decimal.plain.write value)
  | bool value => some (if value then "true" else "false")
  | structured _ => none

def kind : Literal → String
  | bool _ => "bool"
  | number _ => "number"
  | text _ => "string"
  | structured (.array _) => "array"
  | structured (.object _) => "object"
  | structured _ => "unsupported"

def describe : Literal → String
  | bool value => if value then "true" else "false"
  | number value => Decimal.plain.write value
  | text value => Text.quoted value
  | structured value => value.render

/-- The literal as data; a number that is not finite has no spelling and becomes `null`. -/
def toValue : Literal → Json.Value
  | bool value => .bool value
  | number value => if value.isFinite then .number (.real value) else .null
  | text value => .text value
  | structured value => value

/-- Reads a literal; every number is taken as a double. -/
def ofNode? (depth : Nat) : Json.Node → Option Literal
  | .bool value => some (bool value)
  | .number content => content.map fun value => number value.toFloat
  | .text content => content.map text
  | node => (node.value? depth).map structured

end Literal

end WorkflowGuard
