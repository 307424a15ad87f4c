/-!
# Keys of rules

Every rule of a document has a place of its own: the edge of a workflow that it guards, or its
position in a group of rules.
-/

namespace WorkflowGuard

/-- The two sorts of rules. -/
inductive RuleKind where
  | transition
  | group
  deriving DecidableEq, Repr

/-- The place of a rule. -/
inductive RuleKey where
  /-- The rule that guards the edge from `source` to `target`. -/
  | transition (domain source target : String)
  /-- The rule at a position of a group. -/
  | group (domain group : String) (index : Nat)
  deriving DecidableEq, Repr

namespace RuleKey

def kind : RuleKey → RuleKind
  | transition .. => .transition
  | group .. => .group

def domain : RuleKey → String
  | transition domain _ _ => domain
  | group domain _ _ => domain

def describe : RuleKey → String
  | transition domain source target => s!"{domain}:{source}->{target}"
  | group domain name index => s!"{domain}:{name}[{index}]"

/-- Keys in order: transitions before groups, then by their parts. -/
def order : RuleKey → RuleKey → Ordering
  | transition domain source target, transition domain' source' target' =>
    (compare domain domain').then ((compare source source').then (compare target target'))
  | transition .., group .. => .lt
  | group .., transition .. => .gt
  | group domain name index, group domain' name' index' =>
    (compare domain domain').then ((compare name name').then (compare index index'))

end RuleKey

end WorkflowGuard
