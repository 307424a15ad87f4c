/-!
# Faults in the conditions of a rule

Each fault names the position of the descriptor it was found in.
-/

namespace WorkflowGuard

/-- Why the conditions of a rule cannot be compiled. -/
inductive RuleError where
  /-- The operator has none of the known spellings. -/
  | unsupportedOperator (index : Nat) (operator : String)
  /-- The descriptor names neither a role nor a field. -/
  | emptyCondition (index : Nat)
  | blankName (index : Nat) (part : String)
  | missingValue (index : Nat) (operator : String)
  /-- The operator cannot be applied to a value of this kind. -/
  | incompatibleOperand (index : Nat) (operator valueKind : String)
  /-- A field computed from time is asked for emptiness. -/
  | invalidTimeComparison (index : Nat) (field operator : String)
  deriving DecidableEq, Repr

namespace RuleError

def index : RuleError → Nat
  | unsupportedOperator index _
  | emptyCondition index
  | blankName index _
  | missingValue index _
  | incompatibleOperand index _ _
  | invalidTimeComparison index _ _ => index

/-- The same fault at a position that lies further back. -/
def shift (distance : Nat) : RuleError → RuleError
  | unsupportedOperator index operator => unsupportedOperator (index + distance) operator
  | emptyCondition index => emptyCondition (index + distance)
  | blankName index part => blankName (index + distance) part
  | missingValue index operator => missingValue (index + distance) operator
  | incompatibleOperand index operator valueKind =>
    incompatibleOperand (index + distance) operator valueKind
  | invalidTimeComparison index field operator =>
    invalidTimeComparison (index + distance) field operator

def message : RuleError → String
  | unsupportedOperator index operator =>
    s!"Condition {index}: unsupported operator '{operator}'"
  | emptyCondition index => s!"Condition {index} has neither a role nor a field"
  | blankName index part => s!"Condition {index}: {part} cannot be blank"
  | missingValue index operator =>
    s!"Condition {index}: operator '{operator}' requires a value"
  | incompatibleOperand index operator valueKind =>
    s!"Condition {index}: operator '{operator}' cannot be applied to a {valueKind} value"
  | invalidTimeComparison index field operator =>
    s!"Condition {index}: virtual field '{field}' requires a numeric comparison, " ++
      s!"got operator '{operator}'"

end RuleError

end WorkflowGuard
