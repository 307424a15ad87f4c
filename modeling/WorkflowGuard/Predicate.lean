import WorkflowGuard.Condition

/-!
# Predicates

A rule is executed as a `Predicate`: a fixed answer, or the conjunction of compiled conditions.
No conditions at all is the predicate that is always true.
-/

namespace WorkflowGuard

/-- An executable rule. -/
inductive Predicate where
  | constant (result : Bool)
  | all (conditions : List Condition)
  deriving Repr, Inhabited

namespace Predicate

def allowAll : Predicate :=
  constant true

def denyAll : Predicate :=
  constant false

/-- The conjunction of conditions. -/
def ofConditions : List Condition → Predicate
  | [] => allowAll
  | conditions => all conditions

/-- The predicate holds for a ticket and a principal at an instant. -/
def holds (predicate : Predicate) (ticket : Ticket) (principal : Principal) (now : Instant) :
    Bool :=
  match predicate with
  | constant result => result
  | all conditions =>
    let fields := CustomFields.ofPayload ticket.payload
    conditions.all (·.holds fields ticket principal now)

def constant? : Predicate → Option Bool
  | constant result => some result
  | all _ => none

def conditions : Predicate → List Condition
  | constant _ => []
  | all conditions => conditions

/-- Equal fixed answers, or equal lists of conditions. -/
def same : Predicate → Predicate → Bool
  | constant left, constant right => left == right
  | all left, all right => left == right
  | _, _ => false

instance : BEq Predicate :=
  ⟨same⟩

theorem holds_ofConditions (conditions : List Condition) (ticket : Ticket)
    (principal : Principal) (now : Instant) :
    (ofConditions conditions).holds ticket principal now =
      conditions.all (·.holds (.ofPayload ticket.payload) ticket principal now) := by
  cases conditions <;> rfl

end Predicate

end WorkflowGuard
