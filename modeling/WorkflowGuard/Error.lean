import WorkflowGuard.Document.Error

/-!
# Errors of the engine

The engine fails because of the document, because of the source the document comes from, or
because of the watcher.
-/

namespace WorkflowGuard

/-- Why a source gives no answer. -/
inductive SourceError where
  | io (location reason : String)
  /-- The source has nothing to give at present. -/
  | unavailable (reason : String)
  deriving DecidableEq, Repr

/-- The text of a fault of a source. -/
def SourceError.message : SourceError → String
  | io location reason => s!"Failed to read configuration from {location}: {reason}"
  | unavailable reason => s!"Configuration source unavailable: {reason}"

/-- Why a watcher cannot serve. -/
inductive WatcherError where
  | spawnFailed (reason : String)
  | disconnected
  deriving DecidableEq, Repr

/-- The text of a fault of a watcher. -/
def WatcherError.message : WatcherError → String
  | spawnFailed reason => s!"Failed to spawn watcher thread: {reason}"
  | disconnected => "Watcher channel disconnected"

/-- Why the engine could not do what it was asked for. -/
inductive EngineError where
  | document (error : DocumentError)
  | source (error : SourceError)
  | watcher (error : WatcherError)
  deriving DecidableEq, Repr

namespace EngineError

def message : EngineError → String
  | document error => "Configuration error: " ++ error.message
  | source error => "Source error: " ++ error.message
  | watcher error => "Watcher error: " ++ error.message

/-- Trying the same again could succeed: a faulty document stays faulty until it is edited, but
a source that failed may be in the middle of a write. -/
def isRetryable : EngineError → Bool
  | document _ => false
  | source _ => true
  | watcher (.spawnFailed _) => true
  | watcher .disconnected => false

end EngineError

end WorkflowGuard
