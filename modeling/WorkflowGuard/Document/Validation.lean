import WorkflowGuard.Document.Json
import WorkflowGuard.Event
import WorkflowGuard.Text.Blank

/-!
# Validation of documents

Validation walks a document in a fixed order and makes findings: faults, and events that only
warn. The first fault decides, and of the warnings those before it are reported.
-/

namespace WorkflowGuard

/-- What validation finds at one place of a document. -/
inductive Finding where
  | fault (error : DocumentError)
  | warning (event : Event)
  deriving DecidableEq, Repr

namespace Finding

/-- The outcome of a list of findings: the first fault, and the warnings before it. -/
def conclude : List Finding → Logged (Except DocumentError Unit)
  | [] => ⟨.ok (), []⟩
  | fault error :: _ => ⟨.error error, []⟩
  | warning event :: rest =>
    let others := conclude rest
    ⟨others.value, event :: others.events⟩

def ofName (path name : String) : List Finding :=
  if Text.isBlank name then [fault (.blankName path)] else []

end Finding

namespace DomainRules

/-- The findings in a workflow: per state its own name and the names of its targets. -/
def workflowFindings (domain : String) (rules : DomainRules) : List Finding :=
  rules.workflow.entries.flatMap fun (source, targets) =>
    Finding.ofName s!"domains.{domain}.workflow" source ++
      targets.flatMap (Finding.ofName s!"domains.{domain}.workflow.{source}")

/-- The findings for the transition rule at a position: blank states, an edge that was seen at an
earlier rule, and an edge that is not in the workflow. -/
def transitionFindings (domain : String) (rules : DomainRules) (seen : List (String × String))
    (index : Nat) (rule : TransitionRule) : List Finding :=
  Finding.ofName s!"domains.{domain}.transitions[{index}].from" rule.source ++
    Finding.ofName s!"domains.{domain}.transitions[{index}].to" rule.target ++
    (if seen.contains rule.edge
      then [.fault (.duplicateTransition domain rule.source rule.target)] else []) ++
    (if rules.hasEdge rule.source rule.target then []
      else [.warning (.edgeOutsideWorkflow domain rule.source rule.target)])

/-- The findings for the transition rules from a position on. The edge of each rule is put in the
set of those seen before the next rule is looked at. -/
def transitionFindingsFrom (domain : String) (rules : DomainRules) (index : Nat)
    (seen : List (String × String)) : List TransitionRule → List Finding
  | [] => []
  | rule :: rest =>
    rules.transitionFindings domain seen index rule ++
      transitionFindingsFrom domain rules (index + 1) (seen.insert rule.edge) rest

/-- The findings in a group of rules: its name, and multipliers that are not finite. -/
def groupFindings (domain group : String) (entries : List GroupRule) : List Finding :=
  Finding.ofName s!"domains.{domain}.rule_groups" group ++
    (entries.mapIdx fun index entry =>
      if entry.multiplier.any fun factor => !factor.isFinite
      then [Finding.fault (.invalidMultiplier domain group index)] else []).flatten

def findings (domain : String) (rules : DomainRules) : List Finding :=
  Finding.ofName "domains" domain ++
    rules.workflowFindings domain ++
    rules.transitionFindingsFrom domain 0 [] rules.transitions ++
    rules.groups.entries.flatMap fun (group, entries) => groupFindings domain group entries

end DomainRules

namespace Document

def defaultDomainFindings (document : Document) : List Finding :=
  match document.defaultDomain with
  | none => []
  | some domain =>
    Finding.ofName "default_domain" domain ++
      if document.domains.contains domain then []
      else [.warning (.defaultDomainWithoutRules domain)]

def findings (document : Document) : List Finding :=
  document.defaultDomainFindings ++
    document.domains.entries.flatMap fun (domain, rules) => rules.findings domain

/-- Checks a document as a whole. The conditions of rules are left to the compiler. -/
def validate (document : Document) : Logged (Except DocumentError Unit) :=
  Finding.conclude document.findings

/-- The fault of bytes that are no JSON text of the right shape. -/
def unreadable : DocumentError :=
  .malformed "unreadable document" 0 0

/-- Reads and validates a document. -/
def load (bytes : Bytes) : Logged (Except DocumentError Document) :=
  match parse? bytes with
  | none => ⟨.error unreadable, []⟩
  | some document => (Except.map fun _ => document) <$> document.validate

end Document

end WorkflowGuard
