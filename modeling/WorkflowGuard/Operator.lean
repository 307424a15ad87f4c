import WorkflowGuard.Comparison
import WorkflowGuard.Text.Ascii
import WorkflowGuard.Text.Blank

/-!
# Operators of conditions

An operator compares a field with a value or asks whether the field is empty. Its spelling is
recognized in any ASCII case and with white space around it. Main statement: the spelling of
an operator reads back as that operator.
-/

namespace WorkflowGuard

/-- What a condition asks of a field. -/
inductive Operator where
  | compare (comparison : Comparison)
  | isEmpty
  | isNotEmpty
  deriving DecidableEq, Repr

namespace Operator

/-- The operator of a condition that names none. -/
def default : Operator :=
  compare .eq

/-- The spelling in a configuration. -/
def spelling : Operator → String
  | compare .eq => "=="
  | compare .ne => "!="
  | compare .gt => ">"
  | compare .ge => ">="
  | compare .lt => "<"
  | compare .le => "<="
  | isEmpty => "is_empty"
  | isNotEmpty => "is_not_empty"

def all : List Operator :=
  [compare .eq, compare .ne, compare .gt, compare .ge, compare .lt, compare .le, isEmpty,
    isNotEmpty]

/-- The operator that a text spells. -/
def read? (text : String) : Option Operator :=
  let word := Text.asciiLower (Text.trim text)
  all.find? fun operator => operator.spelling.toList == word

/-- The comparison, unless the operator asks for emptiness. -/
def comparison? : Operator → Option Comparison
  | compare comparison => some comparison
  | isEmpty | isNotEmpty => none

/-- The operator asks which of two numbers is greater. -/
def isOrdering (operator : Operator) : Bool :=
  operator.comparison?.any Comparison.isOrdering

theorem read?_spelling (operator : Operator) : read? operator.spelling = some operator := by
  rcases operator with comparison | _ | _
  · cases comparison <;> decide +kernel
  all_goals decide +kernel

end Operator

end WorkflowGuard
