import WorkflowGuard.Document
import WorkflowGuard.Json.Reader

/-!
# Documents as JSON

A document is written in one way, its canonical text: every field in order, missing names and
multipliers left out, dictionaries by ascending name. It is read from any spelling that a
record permits.
-/

namespace WorkflowGuard

open Json (Node Value)

namespace Policy

def name : Policy → String
  | allow => "allow"
  | deny => "deny"

def ofName? (text : String) : Option Policy :=
  if text = allow.name then some allow
  else if text = deny.name then some deny
  else none

/-- Reads a policy: its word, or an object whose only member has that name and holds `null`. -/
def ofNode? (depth : Nat) : Node → Option Policy
  | .text content => content.bind ofName?
  | .object [(name, .null)] => if depth = 0 then none else name.bind ofName?
  | _ => none

end Policy

namespace Policies

def toValue (policies : Policies) : Value :=
  .object [("transition", .text policies.transition.name), ("group", .text policies.group.name)]

def ofNode? : Nat → Node → Option Policies :=
  Node.record? ["transition", "group"] fun depth fields => do
    let transition ← Node.fieldOr? fields "transition" .allow (Policy.ofNode? depth)
    let group ← Node.fieldOr? fields "group" .deny (Policy.ofNode? depth)
    return { transition, group }

end Policies

namespace TransitionRule

def toValue (rule : TransitionRule) : Value :=
  .object
    [("from", .text rule.source),
      ("to", .text rule.target),
      ("conditions", .array (rule.conditions.map Descriptor.toValue))]

def ofNode? : Nat → Node → Option TransitionRule :=
  Node.record? ["from", "to", "conditions"] fun depth fields => do
    let source ← Node.required? fields "from" (·.text?)
    let target ← Node.required? fields "to" (·.text?)
    let conditions ← Node.fieldOr? fields "conditions" [] (Descriptor.listOfNode? depth)
    return { source, target, conditions }

end TransitionRule

namespace GroupRule

/-- A factor as data; one that is not finite has no spelling and becomes `null`. -/
def factorValue (factor : Float) : Value :=
  if factor.isFinite then .number (.real factor) else .null

def toValue (rule : GroupRule) : Value :=
  .object ((rule.name.map fun name => ("name", Value.text name)).toList ++
    (rule.multiplier.map fun factor => ("multiplier", factorValue factor)).toList ++
    [("conditions", .array (rule.conditions.map Descriptor.toValue))])

def ofNode? : Nat → Node → Option GroupRule :=
  Node.record? ["name", "multiplier", "conditions"] fun depth fields => do
    let name ← Node.fieldOr? fields "name" none (·.optional? (·.text?))
    let multiplier ← Node.fieldOr? fields "multiplier" none (·.optional? (·.float?))
    let conditions ← Node.fieldOr? fields "conditions" [] (Descriptor.listOfNode? depth)
    return { name, multiplier, conditions }

end GroupRule

def Dict.toValue {α : Type} (dict : Dict α) (value : α → Value) : Value :=
  .object (dict.entries.map fun entry => (entry.1, value entry.2))

namespace DomainRules

def toValue (rules : DomainRules) : Value :=
  .object
    [("workflow", rules.workflow.toValue fun targets => .array (targets.map .text)),
      ("transitions", .array (rules.transitions.map TransitionRule.toValue)),
      ("rule_groups",
        rules.groups.toValue fun entries => .array (entries.map GroupRule.toValue))]

def ofNode? : Nat → Node → Option DomainRules :=
  Node.record? ["workflow", "transitions", "rule_groups"] fun depth fields => do
    let workflow ← Node.fieldOr? fields "workflow" ∅
      (Node.dict? (Node.list? fun _ target => target.text?) depth)
    let transitions ← Node.fieldOr? fields "transitions" []
      (Node.list? TransitionRule.ofNode? depth)
    let groups ← Node.fieldOr? fields "rule_groups" ∅
      (Node.dict? (Node.list? GroupRule.ofNode?) depth)
    return { workflow, transitions, groups }

end DomainRules

namespace Document

def toValue (document : Document) : Value :=
  .object (("defaults", document.policies.toValue) ::
    (document.defaultDomain.map fun domain => ("default_domain", Value.text domain)).toList ++
    [("domains", document.domains.toValue DomainRules.toValue)])

def ofNode? : Nat → Node → Option Document :=
  Node.record? ["defaults", "default_domain", "domains"] fun depth fields => do
    let policies ← Node.fieldOr? fields "defaults" {} (Policies.ofNode? depth)
    let defaultDomain ← Node.fieldOr? fields "default_domain" none (·.optional? (·.text?))
    let domains ← Node.fieldOr? fields "domains" ∅ (Node.dict? DomainRules.ofNode? depth)
    return { policies, defaultDomain, domains }

/-- The document that the bytes spell, not yet validated. -/
def parse? (bytes : Bytes) : Option Document :=
  (Node.read? bytes).bind (ofNode? Json.maxDepth)

/-- The canonical text of a document. -/
def canonicalText (document : Document) : String :=
  document.toValue.render

def canonicalBytes (document : Document) : Bytes :=
  Text.utf8 document.canonicalText

end Document

end WorkflowGuard
