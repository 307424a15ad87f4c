import WorkflowGuard.Engine

/-!
# Watching a source

A watcher turns signals of change into reloads. Signals are notifications, which wait in a
bounded queue, and changes of the source's revision seen by polling. Each signal restarts the
debounce window; when the window has passed without another signal, one reload is attempted.

The worker runs in rounds, and a round in phases between which the source may change: it takes
a notification or times out, reads the clock and polls, checks the deadline, and if that has
passed it reads the revision, lets the engine read the revision once more, and then the bytes.
Times are in milliseconds.
-/

namespace WorkflowGuard

/-- How a watcher works. -/
structure WatchConfig where
  /-- The quiet period before a reload. -/
  debounce : Nat := 500
  /-- The time between two looks at the revision; without it there is no polling. -/
  pollInterval : Option Nat := some 250
  /-- The number of notifications that may wait; at least one may. -/
  capacity : Nat := 64
  deriving DecidableEq, Repr

/-- What a watcher has counted. -/
structure WatchCounters where
  /-- Notifications and changes of the revision. -/
  rawEvents : Nat := 0
  reloads : Nat := 0
  skipped : Nat := 0
  failures : Nat := 0
  deriving DecidableEq, Repr

def WatchCounters.attempts (counters : WatchCounters) : Nat :=
  counters.reloads + counters.skipped + counters.failures

/-- Where the worker stands in a round. -/
inductive WatchPhase where
  | waiting
  /-- The wait is over, and the clock has been read. -/
  | polling (now : Nat)
  /-- The revision has been looked at if that was due. -/
  | checking (now : Nat)
  | starting
  /-- The engine has read the revision and goes on to the bytes. -/
  | loading (revision : Option Revision)
  deriving DecidableEq, Repr

/-- A watcher, its worker, and the engine that it reloads. -/
structure Watch where
  config : WatchConfig
  engine : Engine
  queue : Nat
  /-- When the debounce window ends, if one is open. -/
  deadline : Option Nat
  /-- When the revision is looked at next, if polling is on. -/
  nextPoll : Option Nat
  /-- The revision that later ones are compared with. -/
  lastRevision : Option Revision
  counters : WatchCounters
  phase : WatchPhase
  running : Bool

namespace Watch

/-- Starts a watcher. Revisions are compared with the one the engine loaded, so that an edit
made before the start is seen. -/
def spawn (engine : Engine) (config : WatchConfig) (now : Nat) : Watch where
  config := config
  engine := engine
  queue := 0
  deadline := none
  nextPoll := config.pollInterval.map (now + ·)
  lastRevision := engine.loadedRevision
  counters := {}
  phase := .waiting
  running := true

def capacity (watch : Watch) : Nat :=
  max 1 watch.config.capacity

def countSignal (watch : Watch) : Watch :=
  { watch with counters.rawEvents := watch.counters.rawEvents + 1 }

/-- Signals a change. A full queue takes no more, for a notification that waits restarts the
window already. Only a stopped worker is an error; the signal is counted in any case. -/
def tryNotify (watch : Watch) : Watch × Except WatcherError Unit :=
  let counted := watch.countSignal
  if watch.running then
    ({ counted with queue := min (watch.queue + 1) watch.capacity }, .ok ())
  else (counted, .error .disconnected)

/-- Signals a change and ignores whether the worker has stopped. -/
def notify (watch : Watch) : Watch :=
  watch.tryNotify.1

def stop (watch : Watch) : Watch :=
  { watch with running := false }

/-- The handles on the engine: the caller's, and while it runs the watcher's and the
worker's. -/
def engineHandles (watch : Watch) : Nat :=
  if watch.running then 3 else 1

/-- The wait ends: with a notification, if one is taken, which opens the debounce window at the
given time, or without. The clock is read again afterwards. -/
def wake (watch : Watch) (takes : Bool) (received now : Nat) : Watch :=
  if takes && 0 < watch.queue then
    { watch with
      queue := watch.queue - 1
      deadline := some (received + watch.config.debounce)
      phase := .polling now }
  else { watch with phase := .polling now }

/-- Looks at the revision if that is due; a change counts as a signal. -/
def poll (watch : Watch) (now : Nat) (source : Source) : Watch :=
  match watch.nextPoll, watch.config.pollInterval with
  | some due, some interval =>
    if due ≤ now then
      let looked := { watch with nextPoll := some (now + interval), phase := .checking now }
      if source.currentRevision = watch.lastRevision then looked
      else
        { looked.countSignal with
          lastRevision := source.currentRevision
          deadline := some (now + watch.config.debounce) }
    else { watch with phase := .checking now }
  | _, _ => { watch with phase := .checking now }

/-- Closes the debounce window if it has passed. The revision is read here, before the reload
begins, so that anything written later shows as a change. -/
def check (watch : Watch) (now : Nat) (source : Source) : Watch :=
  if watch.deadline.any (· ≤ now) then
    { watch with
      deadline := none
      lastRevision := source.currentRevision
      phase := .starting }
  else { watch with phase := .waiting }

def count (counters : WatchCounters) : Except EngineError ReloadOutcome → WatchCounters
  | .ok (.installed ..) => { counters with reloads := counters.reloads + 1 }
  | .ok (.unchanged _) => { counters with skipped := counters.skipped + 1 }
  | .error _ => { counters with failures := counters.failures + 1 }

/-- The engine reads the bytes and reloads if they have changed. A failure is reported and
changes nothing. -/
def finish (watch : Watch) (revision : Option Revision) (source : Source) : Logged Watch := do
  let (engine, outcome) ←
    watch.engine.reloadFrom Coordinator.reloadBytesIfChanged revision source.contents
  match outcome with
  | .ok _ => pure ()
  | .error error => Logged.log (.reloadFailed error)
  return { watch with engine, counters := count watch.counters outcome, phase := .waiting }

/-- Goes one phase further. The arguments say whether a notification is taken, when it was
received, what the clock shows afterwards, and what the source answers. -/
def advance (watch : Watch) (takes : Bool) (received now : Nat) (source : Source) :
    Logged Watch :=
  match watch.phase with
  | .waiting => pure (watch.wake takes received now)
  | .polling now => pure (watch.poll now source)
  | .checking now => pure (watch.check now source)
  | .starting => pure { watch with phase := .loading source.currentRevision }
  | .loading revision => watch.finish revision source

/-- One round during which the source does not change: at most five phases. -/
def iterate (watch : Watch) (takes : Bool) (now : Nat) (source : Source) : Logged Watch := do
  let polled := ((watch.wake takes now now).poll now source).check now source
  match polled.phase with
  | .starting => polled.finish source.currentRevision source
  | _ => return polled

/-- The time at which an idle worker acts next: the deadline, the next look at the revision, or
a second from now, whichever is first. -/
def nextWake (watch : Watch) (now : Nat) : Nat :=
  [watch.deadline, watch.nextPoll].reduceOption.foldl min (now + 1000)

/-- Runs the worker over an unchanging source until the given number of reload attempts has
been made, but for at most `rounds` rounds and not after it was stopped. Waiting notifications
are taken at once; otherwise time moves on to the next wake. Returns the time and the watcher. -/
def settle (source : Source) (attempts : Nat) : Nat → Nat → Watch → Logged (Nat × Watch)
  | 0, now, watch => pure (now, watch)
  | rounds + 1, now, watch =>
    if attempts ≤ watch.counters.attempts || !watch.running then pure (now, watch)
    else if 0 < watch.queue then do
      let watch ← watch.iterate true now source
      settle source attempts rounds now watch
    else do
      let later := max (now + 1) (watch.nextWake now)
      let watch ← watch.iterate false later source
      settle source attempts rounds later watch

end Watch

end WorkflowGuard
