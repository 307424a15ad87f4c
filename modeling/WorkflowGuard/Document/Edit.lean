import WorkflowGuard.Document

/-!
# Editing documents

Small changes to a document in memory. A change to something that is not there leaves the
document as it is.
-/

namespace WorkflowGuard.Document

/-- Changes the rules of a domain, if there is one of that name. -/
def modifyDomain (document : Document) (domain : String) (change : DomainRules → DomainRules) :
    Document :=
  match document.domains.find? domain with
  | some rules => { document with domains := document.domains.insert domain (change rules) }
  | none => document

/-- Sets or removes the multiplier of the rule at a position of a group. -/
def setMultiplier (document : Document) (domain group : String) (index : Nat)
    (multiplier : Option Float) : Document :=
  document.modifyDomain domain fun rules =>
    match rules.groups.find? group with
    | some entries =>
      { rules with
        groups := rules.groups.insert group
          (entries.modify index fun entry => { entry with multiplier }) }
    | none => rules

/-- Appends a transition rule to a domain, which is added if it is not there. -/
def pushTransition (document : Document) (domain : String) (rule : TransitionRule) : Document :=
  let rules := (document.domains.find? domain).getD {}
  { document with
    domains := document.domains.insert domain
      { rules with transitions := rules.transitions ++ [rule] } }

def removeDomain (document : Document) (domain : String) : Document :=
  { document with domains := document.domains.erase domain }

end WorkflowGuard.Document
