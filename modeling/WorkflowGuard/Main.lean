import WorkflowGuard.Check
import WorkflowGuard.Inspect
import Std.Time.DateTime.Timestamp

/-!
# The command `rules-check`

Reads the files and the clock, prints what `Check.answer` says, and on request keeps running
and reports again after each reload.
-/

namespace WorkflowGuard.Command

/-- The words of the operating system for a failure. -/
def failureText (error : IO.Error) : String :=
  match error with
  | .noFileOrDirectory _ code _ => s!"No such file or directory (os error {code})"
  | .permissionDenied _ code _ => s!"Permission denied (os error {code})"
  | .inappropriateType _ 21 _ => "Is a directory (os error 21)"
  | .inappropriateType _ code _ => s!"Not a directory (os error {code})"
  | other => toString other

/-- When a file was last modified, if that is known. -/
def modificationTime (path : String) : IO (Option Instant) := do
  try
    let time := (← (IO.FS.DirEntry.mk "." path).path.metadata).modified
    return some ⟨time.sec, time.nsec.toNat⟩
  catch _ => return none

/-- The time of the last modification of a file and its bytes, or why it cannot be read. -/
def readFile (path : String) : IO (Except String (Option Instant × Bytes)) := do
  try
    let bytes ← IO.FS.readBinFile path
    return .ok (← modificationTime path, bytes.data.toList)
  catch error => return .error (failureText error)

def presentInstant : IO Instant := do
  let nanos := (← Std.Time.Timestamp.now).toNanosecondsSinceUnixEpoch.toInt
  return ⟨nanos / 1000000000, (nanos % 1000000000).toNat⟩

def freshId : IO TicketId := do
  let high ← IO.rand 0 (Nat.pow 2 64 - 1)
  let low ← IO.rand 0 (Nat.pow 2 64 - 1)
  return .ofRandom high.toUInt64 low.toUInt64

/-- The world as far as the given files are concerned. -/
def observe (paths : List String) : IO Check.World := do
  let files ← paths.mapM fun path => return (path, ← readFile path)
  return {
    file := fun path => (files.lookup path).getD (.error "No such file or directory (os error 2)")
    now := ← presentInstant
    fresh := ← freshId }

/-- Prints lines to one of the two streams. -/
def printLines (stream : IO.FS.Stream) (lines : List String) : IO Unit := do
  for line in lines do
    stream.putStrLn line
  stream.flush

def printOutput (output : Check.Output) : IO UInt32 := do
  printLines (← IO.getStdout) output.out
  printLines (← IO.getStderr) output.errors
  return output.status.toUInt32

/-- Runs a round of the watcher four times a second and reports whenever a new registry is
live, until a report fails. -/
partial def keepWatching (options : Check.Options) (path : String) (watch : Watch) :
    IO UInt32 := do
  IO.sleep 250
  let world ← observe (path :: options.ticket.toList)
  let source := world.source path
  let next := (watch.iterate false (← IO.monoMsNow) source).value
  if next.engine.registry.generation = watch.engine.registry.generation then
    keepWatching options path next
  else
    let (lines, fault) := Check.report world options next.engine.registry source
    let heading := s!"reloaded (generation {next.engine.registry.generation}, " ++
      next.counters.inspect ++ ")"
    printLines (← IO.getStdout) ("" :: heading :: lines)
    match fault with
    | some reason =>
      printLines (← IO.getStderr) ["error: " ++ reason]
      return 2
    | none => keepWatching options path next

/-- Answers once, and goes on watching if that is asked for and the answer has no error. -/
def perform (arguments : List String) : IO UInt32 := do
  let world ← observe (Check.paths arguments)
  let output := Check.answer world (("rules-check" :: arguments).map Text.utf8)
  let status ← printOutput output
  match Check.parse {} arguments with
  | .ok (.check options) =>
    match options.watch, options.config, output.errors with
    | true, some path, [] =>
      match (Engine.start (world.source path)).value with
      | .ok engine => keepWatching options path (.spawn engine {} (← IO.monoMsNow))
      | .error _ => return status
    | _, _, _ => return status
  | _ => return status

end WorkflowGuard.Command

def main (arguments : List String) : IO UInt32 :=
  WorkflowGuard.Command.perform arguments
