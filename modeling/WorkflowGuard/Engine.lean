import WorkflowGuard.Coordinator
import WorkflowGuard.Source

/-!
# The rule engine

The engine answers the questions about tickets from the live registry: which moves are allowed,
which states can come next, which rules of a group apply. It reloads its configuration from a
source and remembers the revision it loaded, which it reads before the bytes: a write in
between leaves an older revision, so that the change is seen later.
-/

namespace WorkflowGuard

/-- A running engine. -/
structure Engine where
  coordinator : Coordinator
  /-- The revision that was read before the last load that succeeded. -/
  loadedRevision : Option Revision

namespace Registry

/-- The move of a ticket to a state is in the workflow and its guard holds. -/
def allows (registry : Registry) (ticket : Ticket) (target : String) (principal : Principal)
    (now : Instant) : Bool :=
  let domain := registry.resolveDomain ticket.domain
  (registry.nextStates domain ticket.status).contains target &&
    (registry.lookup (.transition domain ticket.status target)).holds ticket principal now

/-- The states of the workflow that a ticket may move to, in order of presentation. -/
def validNextStates (registry : Registry) (ticket : Ticket) (principal : Principal)
    (now : Instant) : List String :=
  (registry.nextStates (registry.resolveDomain ticket.domain) ticket.status).filter fun target =>
    registry.allows ticket target principal now

/-- The rules of a group that hold for a ticket, by position. -/
def matchingRules (registry : Registry) (ticket : Ticket) (principal : Principal)
    (group : String) (now : Instant) : List RuleInfo :=
  let domain := registry.resolveDomain ticket.domain
  (registry.groupRules domain group).filter fun rule =>
    (registry.lookup (.group domain group rule.index)).holds ticket principal now

/-- The product, from left to right, of the multipliers of the rules that hold; rules without a
multiplier do not count. -/
def combinedMultiplier (registry : Registry) (ticket : Ticket) (principal : Principal)
    (group : String) (now : Instant) : Float :=
  ((registry.matchingRules ticket principal group now).filterMap RuleInfo.multiplier).foldl
    (· * ·) (Decimal.ofNat 1)

end Registry

namespace Engine

def registry (engine : Engine) : Registry :=
  engine.coordinator.current

/-- Loads the first configuration. There is nothing to fall back to, so a failure is final. -/
def start (source : Source) : Logged (Except EngineError Engine) := do
  match source.contents with
  | .error error => return .error (.source error)
  | .ok bytes =>
    let (coordinator, outcome) ← Coordinator.empty.reloadBytes bytes
    return outcome.map fun _ => ⟨coordinator, source.currentRevision⟩

/-- Starts on a document, which is validated first and then served from its canonical text. -/
def ofDocument (document : Document) : Logged (Except EngineError Engine) := do
  match ← document.validate with
  | .error error => return .error (.document error)
  | .ok () => start (StaticSource.new document.canonicalBytes).toSource

/-- An engine after an operation, with the outcome of the operation. -/
abbrev Step := Logged (Engine × Except EngineError ReloadOutcome)

/-- Reloads from what the source answered: the revision was read first, then the bytes. The
revision is remembered only if the reload succeeds. -/
def reloadFrom (engine : Engine)
    (reload : Coordinator → Bytes → Coordinator.Step)
    (revision : Option Revision) (contents : Except SourceError Bytes) : Step :=
  match contents with
  | .error error => pure (engine, .error (.source error))
  | .ok bytes => do
    let (coordinator, outcome) ← reload engine.coordinator bytes
    let loadedRevision := match outcome with
      | .ok _ => revision
      | .error _ => engine.loadedRevision
    return (⟨coordinator, loadedRevision⟩, outcome)

def reloadConfiguration (engine : Engine) (source : Source) : Step :=
  engine.reloadFrom Coordinator.reloadBytes source.currentRevision source.contents

/-- Reloads the configuration of the source unless its bytes are live already. -/
def reloadIfChanged (engine : Engine) (source : Source) : Step :=
  engine.reloadFrom Coordinator.reloadBytesIfChanged source.currentRevision source.contents

/-- Installs a document that does not come from the source. -/
def reloadDocument (engine : Engine) (document : Document) : Step := do
  let (coordinator, outcome) ← engine.coordinator.reload document
  return ({ engine with coordinator }, outcome)

end Engine

end WorkflowGuard
