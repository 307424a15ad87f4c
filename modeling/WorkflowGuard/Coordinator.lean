import WorkflowGuard.Document.Validation
import WorkflowGuard.Registry.Build

/-!
# Hot reload

A coordinator owns the registry that is live. A reload builds a new registry aside and installs
it in one step; a document that is refused leaves the live registry and the next sequence
number as they were.
-/

namespace WorkflowGuard

/-- The live registry, and the sequence number of the next one. -/
structure Coordinator where
  current : Registry
  nextGeneration : Nat

/-- The result of a reload that did not fail. -/
inductive ReloadOutcome where
  | installed (generation : Nat) (fingerprint : Fingerprint) (stats : Stats)
  /-- The document is the one that is live already. -/
  | unchanged (fingerprint : Fingerprint)
  deriving DecidableEq

def ReloadOutcome.isInstalled : ReloadOutcome → Bool
  | installed .. => true
  | unchanged _ => false

/-- The fingerprint of the document that is live now. -/
def ReloadOutcome.fingerprint : ReloadOutcome → Fingerprint
  | installed _ fingerprint _ => fingerprint
  | unchanged fingerprint => fingerprint

namespace Coordinator

/-- Starts with a registry as the first generation. -/
def new (initial : Registry) : Coordinator where
  current := initial.withGeneration 1
  nextGeneration := 2

def empty : Coordinator :=
  new Registry.empty

def generation (coordinator : Coordinator) : Nat :=
  coordinator.current.generation

/-- Makes a registry live and warns if rules of it deny because they could not be compiled. -/
def install (coordinator : Coordinator) (registry : Registry) :
    Logged (Coordinator × ReloadOutcome) :=
  let generation := coordinator.nextGeneration
  let stats := registry.stats
  ⟨(⟨registry.withGeneration generation, generation + 1⟩,
      .installed generation registry.fingerprint stats),
    if 0 < stats.failedRules then [.rulesDeny generation stats.failedRules] else []⟩

/-- A coordinator after an operation, with the outcome of the operation. -/
abbrev Step := Logged (Coordinator × Except EngineError ReloadOutcome)

def reject (coordinator : Coordinator) (error : DocumentError) : Step :=
  ⟨(coordinator, .error (.document error)), [.documentRejected error]⟩

/-- Builds the registry of a document and installs it. -/
def installDocument (coordinator : Coordinator) (document : Document)
    (fingerprint : Fingerprint) : Step := do
  let registry ← Registry.buildLogged document fingerprint
  let (coordinator, outcome) ← coordinator.install registry
  return (coordinator, .ok outcome)

/-- Validates a document and installs it under the fingerprint of its canonical text. -/
def reload (coordinator : Coordinator) (document : Document) : Step := do
  match ← document.validate with
  | .error error => coordinator.reject error
  | .ok () =>
    coordinator.installDocument document (Fingerprint.ofBytes document.canonicalBytes)

/-- Reads and validates a document and installs it under the given fingerprint. -/
def loadAs (coordinator : Coordinator) (bytes : Bytes) (fingerprint : Fingerprint) : Step := do
  match ← Document.load bytes with
  | .error error => coordinator.reject error
  | .ok document => coordinator.installDocument document fingerprint

def reloadBytes (coordinator : Coordinator) (bytes : Bytes) : Step :=
  coordinator.loadAs bytes (Fingerprint.ofBytes bytes)

/-- Installs the document that the bytes spell, unless they are the bytes that are live. -/
def reloadBytesIfChanged (coordinator : Coordinator) (bytes : Bytes) : Step :=
  let fingerprint := Fingerprint.ofBytes bytes
  if coordinator.current.fingerprint = fingerprint then
    pure (coordinator, .ok (.unchanged fingerprint))
  else coordinator.loadAs bytes fingerprint

end Coordinator

end WorkflowGuard
