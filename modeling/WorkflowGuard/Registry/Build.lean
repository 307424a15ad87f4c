import WorkflowGuard.Document.Json
import WorkflowGuard.Registry
import WorkflowGuard.Rule.Observed

/-!
# Building registries

A registry is built in one pass over a document: through the domains, and in each domain through
the transitions and then through the entries of the groups. Every rule is compiled on the way and
put into the one table of rules. A rule that cannot be compiled denies, is counted and reported,
and affects no other rule.
-/

namespace WorkflowGuard

/-- The rules compiled so far, their numbers, and the reports on the way. -/
structure Compilation where
  rules : RuleTable := ∅
  stats : Stats
  events : List Event := []

namespace Compilation

/-- Counts and reports a rule that cannot be compiled. -/
def reject (key : RuleKey) (error : RuleError) (compilation : Compilation) : Compilation :=
  { compilation with
    stats.failedRules := compilation.stats.failedRules + 1
    events := compilation.events ++ [.keyedRuleDenied key error] }

/-- Counts a rule, compiles it and puts it under its key, over any rule that was there. -/
def add (compilation : Compilation) (key : RuleKey) (conditions : List Descriptor) :
    Compilation :=
  let counted := { compilation with stats.rules := compilation.stats.rules + 1 }
  let (predicate, observed) := Predicate.compileObserved (reject key) conditions counted
  { observed with rules := observed.rules.insert key predicate }

def addTransition (domain : String) (compilation : Compilation) (rule : TransitionRule) :
    Compilation :=
  compilation.add (.transition domain rule.source rule.target) rule.conditions

/-- Adds the entry at a position of a group. What is known of it is listed beside. -/
def addEntry (domain group : String) :
    Compilation × List RuleInfo → GroupRule × Nat → Compilation × List RuleInfo
  | (compilation, infos), (entry, index) =>
    (compilation.add (.group domain group index) entry.conditions,
      infos ++ [⟨index, entry.name, entry.multiplier⟩])

/-- Adds the entries of a group one by one. -/
def addGroup (domain : String) :
    Compilation × Dict (List RuleInfo) → String × List GroupRule →
      Compilation × Dict (List RuleInfo)
  | (compilation, groups), (group, entries) =>
    let (compilation, infos) := entries.zipIdx.foldl (addEntry domain group) (compilation, [])
    (compilation, groups.insert group infos)

end Compilation

/-- A registry that is being built. -/
structure Draft extends Compilation where
  groups : Dict (Dict (List RuleInfo)) := ∅
  workflows : Dict (Dict (List String)) := ∅

/-- Adds the workflow and the rules of a domain. -/
def Draft.addDomain (draft : Draft) : String × DomainRules → Draft
  | (domain, rules) =>
    let compilation :=
      rules.transitions.foldl (Compilation.addTransition domain) draft.toCompilation
    let (compilation, groups) := rules.groups.entries.foldl (Compilation.addGroup domain)
      (compilation, (draft.groups.find? domain).getD ∅)
    { toCompilation := compilation
      groups := draft.groups.insert domain groups
      workflows := draft.workflows.insert domain rules.workflow }

/-- What is built from the domains of a document. -/
def Document.draft (document : Document) : Draft :=
  document.domains.entries.foldl Draft.addDomain
    { stats := { domains := document.domains.size, rules := 0, failedRules := 0 } }

namespace Registry

/-- Builds the registry of a document, not yet installed, and reports each rule that cannot be
compiled. -/
def buildLogged (document : Document) (fingerprint : Fingerprint) : Logged Registry :=
  let draft := document.draft
  ⟨{ rules := draft.rules
     groups := draft.groups
     workflows := draft.workflows
     policies := document.policies
     defaultDomain := document.defaultDomain
     fingerprint := fingerprint
     generation := 0
     stats := draft.stats },
    draft.events⟩

/-- The registry of a document, not yet installed. -/
def build (document : Document) (fingerprint : Fingerprint) : Registry :=
  (buildLogged document fingerprint).value

/-- The registry of the document without any rules. -/
def empty : Registry :=
  build {} (Fingerprint.ofBytes (Document.canonicalBytes {}))

end Registry

end WorkflowGuard
