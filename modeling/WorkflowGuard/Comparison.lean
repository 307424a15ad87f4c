/-!
# Comparisons of numbers

The six comparisons of doubles. A value that is no number is unequal to everything and
satisfies no ordering.
-/

namespace WorkflowGuard

/-- A comparison of two numbers. -/
inductive Comparison where
  | eq
  | ne
  | gt
  | ge
  | lt
  | le
  deriving DecidableEq, Repr

namespace Comparison

def holds : Comparison → Float → Float → Bool
  | eq, left, right => left == right
  | ne, left, right => left != right
  | gt, left, right => right < left
  | ge, left, right => right ≤ left
  | lt, left, right => left < right
  | le, left, right => left ≤ right

/-- The comparison asks which of two numbers is greater. -/
def isOrdering : Comparison → Bool
  | eq | ne => false
  | gt | ge | lt | le => true

def name : Comparison → String
  | eq => "Eq"
  | ne => "Ne"
  | gt => "Gt"
  | ge => "Ge"
  | lt => "Lt"
  | le => "Le"

end Comparison

end WorkflowGuard
