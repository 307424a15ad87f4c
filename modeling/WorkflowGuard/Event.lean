import WorkflowGuard.Error
import WorkflowGuard.Rule.Error
import WorkflowGuard.RuleKey

/-!
# Logged events

Besides its result an operation reports what an operator should know. A `Logged` value carries
the events of a computation in the order in which they happened.
-/

namespace WorkflowGuard

/-- Something worth reporting. -/
inductive Event where
  /-- A rule with so many descriptors was compiled on its own and denies. -/
  | ruleDenied (error : RuleError) (descriptors : Nat)
  | keyedRuleDenied (key : RuleKey) (error : RuleError)
  /-- The default domain is not among the domains. -/
  | defaultDomainWithoutRules (domain : String)
  /-- A rule guards an edge that is not in the workflow. -/
  | edgeOutsideWorkflow (domain source target : String)
  | documentRejected (error : DocumentError)
  /-- Rules of a registry that was installed deny. -/
  | rulesDeny (generation failedRules : Nat)
  | reloadFailed (error : EngineError)
  deriving DecidableEq, Repr

/-- How serious an event is. -/
inductive Level where
  | warn
  | error
  deriving DecidableEq, Repr

namespace Event

/-- A rule that was compiled and denies is an error, all else a warning. -/
def level : Event → Level
  | ruleDenied .. | keyedRuleDenied .. => .error
  | _ => .warn

def message : Event → String
  | ruleDenied .. | keyedRuleDenied .. => "rule failed to compile; denying"
  | defaultDomainWithoutRules _ => "default domain has no rules"
  | edgeOutsideWorkflow .. =>
    "transition rule targets an edge missing from the workflow graph"
  | documentRejected _ => "rejected configuration; keeping live rules"
  | rulesDeny .. => "some rules failed to compile and will deny"
  | reloadFailed _ => "configuration reload failed; keeping live rules"

def details : Event → List (String × String)
  | ruleDenied error descriptors =>
    [("error", error.message), ("conditions", toString descriptors)]
  | keyedRuleDenied key error => [("rule", key.describe), ("error", error.message)]
  | defaultDomainWithoutRules domain => [("default_domain", domain)]
  | edgeOutsideWorkflow domain source target =>
    [("domain", domain), ("from", source), ("to", target)]
  | documentRejected error => [("error", error.message)]
  | rulesDeny generation failedRules =>
    [("generation", toString generation), ("failed_rules", toString failedRules)]
  | reloadFailed error =>
    [("error", error.message), ("retryable", if error.isRetryable then "true" else "false")]

end Event

universe u v

/-- A result and the events on the way to it. -/
structure Logged (α : Type u) where
  value : α
  events : List Event
  deriving Repr

namespace Logged

variable {α : Type u} {β : Type v}

def ofValue (value : α) : Logged α :=
  ⟨value, []⟩

/-- Goes on with the result; the events of both parts are kept in order. -/
def andThen (first : Logged α) (next : α → Logged β) : Logged β :=
  let second := next first.value
  ⟨second.value, first.events ++ second.events⟩

instance : Monad Logged where
  pure := ofValue
  bind := andThen

def log (event : Event) : Logged Unit :=
  ⟨(), [event]⟩

@[simp]
theorem value_pure (value : α) : (pure value : Logged α).value = value := rfl

@[simp]
theorem value_bind {α β : Type u} (first : Logged α) (next : α → Logged β) :
    (first >>= next).value = (next first.value).value := rfl

@[simp]
theorem value_map {α β : Type u} (f : α → β) (first : Logged α) :
    (f <$> first).value = f first.value := rfl

end Logged

end WorkflowGuard
