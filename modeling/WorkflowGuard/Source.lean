import WorkflowGuard.Error
import WorkflowGuard.Instant
import WorkflowGuard.Text.Utf8

/-!
# Sources of configuration

A source gives the bytes of the configuration, and a revision, a cheap sign of change: equal
revisions mean that the bytes are probably the same. `Source` is what a source answers at one
moment.
-/

namespace WorkflowGuard

/-- A sign of change. -/
inductive Revision where
  /-- The length of a file and the time it was last modified, if known. -/
  | file (modified : Option Instant) (length : Nat)
  | version (number : Nat)
  deriving DecidableEq, Repr

/-- The answers of a configuration source at one moment. -/
structure Source where
  /-- Where the configuration is, for people. -/
  description : String
  revision : Except SourceError (Option Revision)
  contents : Except SourceError Bytes

namespace Source

/-- The revision, or nothing if it cannot be read. -/
def currentRevision (source : Source) : Option Revision :=
  match source.revision with
  | .ok revision => revision
  | .error _ => none

def unversioned (description : String) (contents : Bytes) : Source where
  description := description
  revision := .ok none
  contents := .ok contents

/-- A file at a path that could be read. -/
def ofFile (path : String) (modified : Option Instant) (contents : Bytes) : Source where
  description := "file:" ++ path
  revision := .ok (some (.file modified contents.length))
  contents := .ok contents

/-- A file at a path that could not be read. -/
def ofUnreadableFile (path reason : String) : Source where
  description := "file:" ++ path
  revision := .error (.io path reason)
  contents := .error (.io path reason)

end Source

/-- A configuration in memory. Replacing it counts its versions. -/
structure StaticSource where
  bytes : Bytes
  version : Nat

namespace StaticSource

def new (bytes : Bytes) : StaticSource :=
  ⟨bytes, 1⟩

def replace (source : StaticSource) (bytes : Bytes) : StaticSource :=
  ⟨bytes, source.version + 1⟩

def toSource (source : StaticSource) : Source where
  description := "static"
  revision := .ok (some (.version source.version))
  contents := .ok source.bytes

end StaticSource

end WorkflowGuard
