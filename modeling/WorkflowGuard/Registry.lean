import WorkflowGuard.Document
import WorkflowGuard.Event
import WorkflowGuard.Fingerprint
import WorkflowGuard.Registry.Table
import WorkflowGuard.Text.Blank

/-!
# Registries of compiled rules

A registry is the compiled form of one document and never changes. The predicates of all rules
stand in one table, under the keys of the rules. Apart from it there are, per domain, the
workflow, and what is known of the rules in a group besides their predicates; the two meet again
only through a key. A key without a rule has the fixed answer of the policy for its sort.
-/

namespace WorkflowGuard

/-- What is known of a group rule apart from its predicate. -/
structure RuleInfo where
  index : Nat
  name : Option String
  multiplier : Option Float
  deriving Repr, Inhabited

/-- The numbers of domains, of rules, and of rules that could not be compiled. -/
@[ext]
structure Stats where
  domains : Nat
  rules : Nat
  failedRules : Nat
  deriving DecidableEq, Repr, Inhabited

/-- The compiled rules of a document. -/
structure Registry where
  rules : RuleTable
  /-- Per domain and group, what is known of the rules, by position. -/
  groups : Dict (Dict (List RuleInfo))
  /-- Per domain and state, the states that can come next. -/
  workflows : Dict (Dict (List String))
  policies : Policies
  defaultDomain : Option String
  fingerprint : Fingerprint
  /-- The sequence number of the installation; zero before it. -/
  generation : Nat
  stats : Stats

namespace Registry

/-- The predicate of a key, if the key has a rule. -/
def find? (registry : Registry) (key : RuleKey) : Option Predicate :=
  registry.rules.find? key

/-- The fixed answer for keys of one sort that have no rule. -/
def defaultFor (registry : Registry) (kind : RuleKind) : Predicate :=
  .constant (registry.policies.of kind).permits

/-- The predicate of a key. -/
def lookup (registry : Registry) (key : RuleKey) : Predicate :=
  (registry.find? key).getD (registry.defaultFor key.kind)

def contains (registry : Registry) (key : RuleKey) : Bool :=
  (registry.find? key).isSome

/-- The domain whose rules apply: the default domain, if there is one, in place of a blank
domain. -/
def resolveDomain (registry : Registry) (domain : String) : String :=
  match registry.defaultDomain with
  | some fallback => if Text.isBlank domain then fallback else domain
  | none => domain

/-- The states that the workflow of a domain has after a state, in order of presentation. -/
def nextStates (registry : Registry) (domain source : String) : List String :=
  ((registry.workflows.find? domain).bind fun workflow => workflow.find? source).getD []

/-- What is known of the rules of a group, by position. -/
def groupRules (registry : Registry) (domain group : String) : List RuleInfo :=
  ((registry.groups.find? domain).bind fun groups => groups.find? group).getD []

def domains (registry : Registry) : List String :=
  registry.workflows.names

/-- The number of keys that have a rule. -/
def size (registry : Registry) : Nat :=
  registry.rules.size

def withGeneration (registry : Registry) (generation : Nat) : Registry :=
  { registry with generation }

end Registry

end WorkflowGuard
