import WorkflowGuard.Descriptor
import WorkflowGuard.Predicate
import WorkflowGuard.Rule.Error

/-!
# Compiling rules

The descriptors of a rule become a predicate. How a field is read is settled here, once, by the
value it is compared with: a field computed from time by its number; else a value with a
reading as a number compares numbers; else one with a reading as a truth value compares truth
values; else the field is compared as a text. Emptiness checks take no value. A rule without
descriptors allows everything, and a rule with a faulty descriptor denies everything.
-/

namespace WorkflowGuard

namespace Descriptor

/-- The operator of a descriptor; equality if it names none. -/
def operator? (index : Nat) : Option String → Except RuleError Operator
  | none => .ok .default
  | some text =>
    match Operator.read? text with
    | some operator => .ok operator
    | none => .error (.unsupportedOperator index text)

/-- The condition on a field computed from time. -/
def timeCondition (index : Nat) (field : TimeField) (operator : Operator)
    (value : Option Literal) : Except RuleError Condition :=
  match operator.comparison?, value with
  | none, _ => .error (.invalidTimeComparison index field.name operator.spelling)
  | some _, none => .error (.missingValue index operator.spelling)
  | some comparison, some literal =>
    match literal.number? with
    | some number => .ok (.time field comparison number)
    | none => .error (.incompatibleOperand index operator.spelling literal.kind)

/-- The comparison of a custom field with a value. -/
def valueCondition (index : Nat) (key : String) (comparison : Comparison) (literal : Literal) :
    Except RuleError Condition :=
  let incompatible := RuleError.incompatibleOperand index
    (Operator.compare comparison).spelling literal.kind
  match literal.number?, literal.truth?, literal.text? with
  | some number, _, _ => .ok (.number key comparison number)
  | none, some expected, _ =>
    if comparison.isOrdering then .error incompatible
    else .ok (.truth key expected (comparison == .ne))
  | none, none, some expected =>
    if comparison.isOrdering then .error incompatible
    else .ok (.text key expected (comparison == .ne))
  | none, none, none => .error incompatible

def customCondition (index : Nat) (key : String) (operator : Operator)
    (value : Option Literal) : Except RuleError Condition :=
  match operator, value with
  | .isEmpty, _ => .ok (.blank key true)
  | .isNotEmpty, _ => .ok (.blank key false)
  | .compare _, none => .error (.missingValue index operator.spelling)
  | .compare comparison, some literal => valueCondition index key comparison literal

/-- The condition on a field of either sort. The name is taken exactly as it is written. -/
def fieldCondition (index : Nat) (field : String) (operator : Operator)
    (value : Option Literal) : Except RuleError Condition :=
  match TimeField.ofName? field with
  | some timeField => timeCondition index timeField operator value
  | none => customCondition index field operator value

/-- The condition for the role of a descriptor, if it has one. -/
def roleConditions (index : Nat) : Option String → Except RuleError (List Condition)
  | none => .ok []
  | some role =>
    if Text.isBlank role then .error (.blankName index "role") else .ok [.hasRole role]

/-- The condition for the field of a descriptor, if it has one. -/
def fieldConditions (index : Nat) (descriptor : Descriptor) :
    Except RuleError (List Condition) :=
  match descriptor.field with
  | none => .ok []
  | some field =>
    if Text.isBlank field then .error (.blankName index "field")
    else do
      let operator ← operator? index descriptor.operator
      let condition ← fieldCondition index field operator descriptor.value
      return [condition]

/-- The one or two conditions of a descriptor: its role, then its field. -/
def conditions (index : Nat) (descriptor : Descriptor) : Except RuleError (List Condition) :=
  if descriptor.role.isNone && descriptor.field.isNone then .error (.emptyCondition index)
  else do
    let role ← roleConditions index descriptor.role
    let field ← fieldConditions index descriptor
    return role ++ field

/-- The conditions of a list of descriptors, the first of which has the given position. -/
def allConditions : Nat → List Descriptor → Except RuleError (List Condition)
  | _, [] => .ok []
  | index, descriptor :: rest => do
    let first ← descriptor.conditions index
    let others ← allConditions (index + 1) rest
    return first ++ others

end Descriptor

namespace Predicate

/-- Compiles a rule, or returns the first fault found. -/
def compile? (descriptors : List Descriptor) : Except RuleError Predicate :=
  (Descriptor.allConditions 0 descriptors).map ofConditions

/-- Compiles a rule; one with a fault denies everything. -/
def compile (descriptors : List Descriptor) : Predicate :=
  match compile? descriptors with
  | .ok predicate => predicate
  | .error _ => denyAll

end Predicate

end WorkflowGuard
