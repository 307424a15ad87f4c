import WorkflowGuard.Descriptor
import WorkflowGuard.Dict
import WorkflowGuard.RuleKey

/-!
# Configuration documents

A document holds, per domain of tickets, the workflow, the rules that guard its edges, and
named groups of rules, which are known by their position. Two policies say what happens where
there is no rule.
-/

namespace WorkflowGuard

/-- What applies where there is no rule. -/
inductive Policy where
  | allow
  | deny
  deriving DecidableEq, Repr, Inhabited

def Policy.permits : Policy → Bool
  | .allow => true
  | .deny => false

/-- The policies for the two sorts of rules. An edge of the workflow without a rule is allowed,
a group rule applies only if it is there. -/
structure Policies where
  transition : Policy := .allow
  group : Policy := .deny
  deriving DecidableEq, Repr, Inhabited

def Policies.of (policies : Policies) : RuleKind → Policy
  | .transition => policies.transition
  | .group => policies.group

/-- The rule that guards an edge of the workflow. -/
structure TransitionRule where
  source : String
  target : String
  conditions : List Descriptor
  deriving Repr, Inhabited, BEq

/-- The edge of the workflow that the rule guards. -/
def TransitionRule.edge (rule : TransitionRule) : String × String :=
  (rule.source, rule.target)

/-- A rule of a group. -/
structure GroupRule where
  name : Option String := none
  /-- The factor that applies if the rule does. -/
  multiplier : Option Float := none
  conditions : List Descriptor
  deriving Repr, Inhabited, BEq

/-- The rules of one domain. -/
structure DomainRules where
  /-- The states that can be reached in one step from each state, in order of presentation. -/
  workflow : Dict (List String) := ∅
  transitions : List TransitionRule := []
  groups : Dict (List GroupRule) := ∅
  deriving Inhabited, BEq

/-- A configuration document. -/
structure Document where
  policies : Policies := {}
  /-- The domain of tickets whose own domain is blank. -/
  defaultDomain : Option String := none
  domains : Dict DomainRules := ∅
  deriving Inhabited, BEq

def total (counts : List Nat) : Nat :=
  counts.foldr (· + ·) 0

namespace DomainRules

def hasEdge (rules : DomainRules) (source target : String) : Bool :=
  (rules.workflow.find? source).any (·.contains target)

/-- The keys of the rules of a domain with their descriptors: transitions in their order, then
groups by name, each by position. -/
def keyed (domain : String) (rules : DomainRules) : List (RuleKey × List Descriptor) :=
  rules.transitions.map (fun rule =>
      (.transition domain rule.source rule.target, rule.conditions)) ++
    rules.groups.entries.flatMap fun (group, entries) =>
      entries.mapIdx fun index entry => (.group domain group index, entry.conditions)

def ruleCount (rules : DomainRules) : Nat :=
  rules.transitions.length + total (rules.groups.values.map List.length)

end DomainRules

namespace Document

/-- All rules with their keys, by ascending domain. -/
def keyedRules (document : Document) : List (RuleKey × List Descriptor) :=
  document.domains.entries.flatMap fun (domain, rules) => rules.keyed domain

def ruleCount (document : Document) : Nat :=
  total (document.domains.values.map DomainRules.ruleCount)

end Document

end WorkflowGuard
