import WorkflowGuard.Comparison
import WorkflowGuard.CustomFields
import WorkflowGuard.Roles
import WorkflowGuard.Text.CaseInsensitive
import WorkflowGuard.Ticket
import WorkflowGuard.TimeField

/-!
# Compiled conditions

A compiled condition knows how its field is read: as a number, a truth value or a text, for
being blank, or as a number of days. Whether it holds depends on the ticket, the principal and
the present instant alone.
-/

namespace WorkflowGuard

/-- A condition whose operands have fixed types. -/
inductive Condition where
  | hasRole (role : String)
  /-- A number of days compares with a constant. -/
  | time (field : TimeField) (comparison : Comparison) (value : Float)
  /-- A custom field, as a number, compares with a constant. -/
  | number (key : String) (comparison : Comparison) (value : Float)
  /-- A custom field, as a truth value, is the expected one, or is not. -/
  | truth (key : String) (expected negate : Bool)
  /-- A custom field is the expected text up to letter case, or is not. -/
  | text (key : String) (expected : String) (negate : Bool)
  /-- A custom field is blank, or is not. -/
  | blank (key : String) (expectBlank : Bool)
  deriving Repr, Inhabited

namespace TimeField

/-- The days until the target of a ticket that has none. -/
def noTargetDays : Float :=
  Decimal.ofNat 99999

def daysOfMillis (millis : Int) : Float :=
  Decimal.ofInt millis / Decimal.ofNat 86400000

/-- The number of days at the given instant. -/
def days (field : TimeField) (ticket : Ticket) (now : Instant) : Float :=
  match field with
  | daysUntilBreach =>
    match ticket.target with
    | some target => daysOfMillis (target.millisSince now)
    | none => noTargetDays
  | ageDays => daysOfMillis (now.millisSince ticket.createdAt)

end TimeField

namespace Condition

/-- The condition holds. The payload's fields are passed along with the ticket so that they are
read once for all conditions. -/
def holds (condition : Condition) (fields : CustomFields) (ticket : Ticket)
    (principal : Principal) (now : Instant) : Bool :=
  match condition with
  | hasRole role => principal.holds role
  | time field comparison value => comparison.holds (field.days ticket now) value
  | number key comparison value => comparison.holds (fields.number key) value
  | truth key expected negate => (fields.truth key == expected) != negate
  | text key expected negate =>
    (fields.text? key).any (Text.equalIgnoringCase · expected) != negate
  | blank key expectBlank => fields.isBlank key == expectBlank

/-- Conditions of one kind with equal operands; constants are compared as doubles. -/
def same : Condition → Condition → Bool
  | hasRole left, hasRole right => left == right
  | time leftField leftComparison left, time rightField rightComparison right =>
    leftField == rightField && leftComparison == rightComparison && left == right
  | number leftKey leftComparison left, number rightKey rightComparison right =>
    leftKey == rightKey && leftComparison == rightComparison && left == right
  | truth leftKey left leftNegate, truth rightKey right rightNegate =>
    leftKey == rightKey && left == right && leftNegate == rightNegate
  | text leftKey left leftNegate, text rightKey right rightNegate =>
    leftKey == rightKey && left == right && leftNegate == rightNegate
  | blank leftKey left, blank rightKey right => leftKey == rightKey && left == right
  | _, _ => false

instance : BEq Condition :=
  ⟨same⟩

end Condition

end WorkflowGuard
