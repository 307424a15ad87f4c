import WorkflowGuard.Proofs.Engine.Service
import WorkflowGuard.Proofs.Watch.Runs

/-!
# No edit is lost

A watcher polls the revision of a configuration in memory while that is replaced, while others
reload it too, and while its own reloads are under way. This file shows that it never takes a
revision for known whose bytes are neither live nor rejected.

The argument follows the revision that the worker compares with. It was shown by the source, so
a replacement always makes the present revision another one. Where it is set to the present
revision, a window opens or a reload begins; and a reload reads the bytes later than the
revision, so what it makes live is at least as new. Were the bytes read first, a replacement in
between would be taken for known.
-/

namespace WorkflowGuard

namespace Watch

/-- No debounce window is open, and no reload is under way. -/
def Settled (watch : Watch) : Prop :=
  watch.deadline = none ∧ watch.phase.inAttempt = false

variable {watch result : Watch} {takes : Bool} {received now : Nat} {source : Source}

/-- The worker remembers the revision it had, or the one that the source shows. -/
theorem lastRevision_of_advances (advances : Advances watch takes received now source result) :
    result.lastRevision = watch.lastRevision ∨ result.lastRevision = source.currentRevision := by
  cases advances with
  | changed phase scheduled polls isDue differs => exact .inr rfl
  | begun phase window closed => exact .inr rfl
  | _ => exact .inl rfl

/-- A step to a settled state finishes a reload, or leaves everything that matters here. -/
theorem settled_of_advances (advances : Advances watch takes received now source result)
    (settled : result.Settled) :
    (∃ revision, result.engine = (watch.engine.reloadFrom Coordinator.reloadBytesIfChanged
      revision source.contents).value.1) ∨
    (watch.Settled ∧ result.lastRevision = watch.lastRevision ∧ result.engine = watch.engine) := by
  rcases settled with ⟨noWindow, quiet⟩
  cases advances with
  | taken phase takesOne waits => cases noWindow
  | changed phase scheduled polls isDue differs => cases noWindow
  | begun phase window closed => cases quiet
  | read phase => cases quiet
  | finished phase => exact .inl ⟨_, rfl⟩
  | timedOut phase _ | unchanged phase _ _ _ _ | notDue phase _ | idle phase _ =>
      right
      refine ⟨⟨noWindow, ?_⟩, rfl, rfl⟩
      rw [phase]
      rfl

def PollsAsConfigured (watch : Watch) : Prop :=
  watch.nextPoll.isSome = watch.config.pollInterval.isSome

theorem PollsAsConfigured.of_advances (configured : watch.PollsAsConfigured)
    (advances : Advances watch takes received now source result) : result.PollsAsConfigured := by
  cases advances with
  | changed phase scheduled polls isDue _ | unchanged phase scheduled polls isDue _ =>
      rw [PollsAsConfigured, scheduled] at configured
      exact configured
  | _ => exact configured

/-- At the next poll a new revision opens the window. -/
theorem PollsAsConfigured.deadline_poll (configured : watch.PollsAsConfigured) {interval : Nat}
    (polls : watch.config.pollInterval = some interval)
    (differs : source.currentRevision ≠ watch.lastRevision) :
    ∃ due, watch.nextPoll = some due ∧ ∀ now, due ≤ now →
      (watch.poll now source).deadline = some (now + watch.config.debounce) := by
  rw [PollsAsConfigured, polls, Option.isSome_some, Option.isSome_iff_exists] at configured
  rcases configured with ⟨due, scheduled⟩
  refine ⟨due, scheduled, ?_⟩
  intro now isDue
  simp only [poll, scheduled, polls, if_pos isDue, if_neg differs]

end Watch

/-- A watcher over a configuration in memory. -/
structure Watched where
  watch : Watch
  source : StaticSource

namespace Watched

def service (watched : Watched) : Service :=
  ⟨watched.watch.engine, watched.source⟩

def spawn (service : Service) (config : WatchConfig) (time : Nat) : Watched :=
  ⟨Watch.spawn service.engine config time, service.source⟩

/-- What can happen next: others replace the configuration or reload it, a notification comes,
the worker goes one phase further, or it is stopped. -/
inductive Action where
  | call (call : Service.Call)
  | notify
  | work (takes : Bool) (received now : Nat)
  | stop

def next (watched : Watched) : Action → Watched
  | .call call =>
      let service := watched.service.next call
      ⟨watched.watch.next (.serve service.engine), service.source⟩
  | .notify => { watched with watch := watched.watch.next .notify }
  | .work takes received now =>
      { watched with
        watch := watched.watch.next (.work takes received now watched.source.toSource) }
  | .stop => { watched with watch := watched.watch.next .stop }

def after (watched : Watched) (actions : List Action) : Watched :=
  actions.foldl next watched

theorem after_append (watched : Watched) (earlier later : List Action) :
    watched.after (earlier ++ later) = (watched.after earlier).after later :=
  List.foldl_append

/-- What holds at every moment. In a settled state the worker does not know the present
revision, or its bytes are live or rejected. -/
structure KeepsUp (watched : Watched) : Prop where
  showed : watched.source.Showed watched.watch.lastRevision
  upToDate : watched.watch.Settled →
    watched.watch.lastRevision = watched.source.toSource.currentRevision →
    watched.service.UpToDate
  polls : watched.watch.PollsAsConfigured

theorem keepsUp_spawn {service : Service} (loaded : service.Loaded) (config : WatchConfig)
    (time : Nat) : (spawn service config time).KeepsUp where
  showed := loaded.showed
  upToDate _ isPresent := loaded.upToDate isPresent
  polls := Option.isSome_map

variable {watched : Watched}

/-- Another party may replace the source or reload it, and the worker still keeps up. -/
theorem KeepsUp.call (keepsUp : watched.KeepsUp) (call : Service.Call) :
    (watched.next (.call call)).KeepsUp := by
  have remembers : (watched.service.next call).Remembers watched.watch.lastRevision :=
    Service.remembers_next keepsUp.showed call
  exact ⟨remembers.showed, fun _ isPresent => remembers.upToDate isPresent, keepsUp.polls⟩

theorem KeepsUp.notify (keepsUp : watched.KeepsUp) : (watched.next .notify).KeepsUp := by
  simp only [next, Watch.next, Watch.notify, Watch.tryNotify]
  split
  · exact ⟨keepsUp.showed, keepsUp.upToDate, keepsUp.polls⟩
  · exact ⟨keepsUp.showed, keepsUp.upToDate, keepsUp.polls⟩

/-- No phase of the worker forgets a revision that was not loaded. -/
theorem KeepsUp.work (keepsUp : watched.KeepsUp) (takes : Bool) (received now : Nat) :
    (watched.next (.work takes received now)).KeepsUp := by
  have advances := watched.watch.advances_next takes received now watched.source.toSource
  simp only [next]
  generalize watched.watch.next (.work takes received now watched.source.toSource) = result
    at advances ⊢
  constructor
  case showed =>
    rcases Watch.lastRevision_of_advances advances with kept | read
    · rw [kept]
      exact keepsUp.showed
    · rw [read]
      exact watched.source.showed_currentRevision
  case upToDate =>
    intro settled isPresent
    simp only [service, Service.UpToDate]
    rcases Watch.settled_of_advances advances settled with
      ⟨revision, reloaded⟩ | ⟨settledBefore, sameRevision, sameEngine⟩
    · rw [reloaded]
      exact watched.watch.engine.live_or_rejected Coordinator.reloadsBytes_reloadBytesIfChanged
        revision watched.source.bytes
    · rw [sameEngine]
      rw [sameRevision] at isPresent
      exact keepsUp.upToDate settledBefore isPresent
  case polls => exact keepsUp.polls.of_advances advances

theorem KeepsUp.next (keepsUp : watched.KeepsUp) (action : Action) :
    (watched.next action).KeepsUp := by
  cases action with
  | call call => exact keepsUp.call call
  | notify => exact keepsUp.notify
  | work takes received now => exact keepsUp.work takes received now
  | stop => exact ⟨keepsUp.showed, keepsUp.upToDate, keepsUp.polls⟩

theorem KeepsUp.after (keepsUp : watched.KeepsUp) (actions : List Action) :
    (watched.after actions).KeepsUp := by
  induction actions generalizing watched with
  | nil => exact keepsUp
  | cons action later ih => exact ih (keepsUp.next action)

/-- The next poll, if there is polling, finds another revision and opens a window. -/
structure ShowsAtNextPoll (watched : Watched) : Prop where
  differs : watched.source.toSource.currentRevision ≠ watched.watch.lastRevision
  opensWindow : ∀ interval, watched.watch.config.pollInterval = some interval →
    ∃ due, watched.watch.nextPoll = some due ∧ ∀ now, due ≤ now →
      (watched.watch.poll now watched.source.toSource).deadline =
        some (now + watched.watch.config.debounce)

/-- No edit is lost. -/
structure LosesNoEdit (watched : Watched) : Prop where
  /-- Between rounds and without a window, the bytes of the revision that the worker compares
  with are live or rejected, if it is the present one. -/
  upToDate : watched.watch.Settled →
    watched.watch.lastRevision = watched.source.toSource.currentRevision →
    watched.service.UpToDate
  /-- Bytes that are accepted and not live wait for the end of a window, or are seen next. -/
  pending : watched.watch.phase.inAttempt = false → ¬watched.service.UpToDate →
    watched.watch.deadline.isSome = true ∨ watched.ShowsAtNextPoll

/-- A worker that keeps up will see every edit. -/
theorem KeepsUp.losesNoEdit (keepsUp : watched.KeepsUp) : watched.LosesNoEdit := by
  refine ⟨keepsUp.upToDate, ?_⟩
  intro quiet outdated
  cases window : watched.watch.deadline with
  | some due => exact .inl rfl
  | none =>
      have differs : watched.source.toSource.currentRevision ≠ watched.watch.lastRevision := by
        intro isPresent
        exact outdated (keepsUp.upToDate ⟨window, quiet⟩ isPresent.symm)
      exact .inr ⟨differs, fun _ polls => keepsUp.polls.deadline_poll polls differs⟩

/-- A watcher over a configuration in memory loses no edit, neither one that was made before it
was started nor one that is made during a reload. -/
theorem loses_no_edit {source : StaticSource} {engine : Engine}
    (started : (Engine.start source.toSource).value = .ok engine) (before : List Service.Call)
    (config : WatchConfig) (time : Nat) (actions : List Action) :
    ((spawn (Service.after ⟨engine, source⟩ before) config time).after actions).LosesNoEdit := by
  have loaded := (Service.loaded_of_start started).after before
  exact ((keepsUp_spawn loaded config time).after actions).losesNoEdit

/-- A configuration without domains. -/
def noDomains : Bytes :=
  Text.utf8 "\x7b\"domains\":\x7b\x7d\x7d"

/-- A round in which the poll sees an edit and the window closes at once. When the revision has
been read for the reload, there is another edit. -/
def editedDuringReload : List Action :=
  List.replicate 4 (.work false 9 9) ++ [.call (.replace noDomains)]

theorem loses_no_edit_editedDuringReload :
    ∃ engine, (Engine.start (StaticSource.new noDomains).toSource).value = .ok engine ∧
      let edited := Service.after ⟨engine, StaticSource.new noDomains⟩ [.replace []]
      let started := spawn edited { debounce := 0, pollInterval := some 5 } 0
      let watched := started.after (editedDuringReload ++ [.work false 9 9])
      started.watch.lastRevision = some (.version 1) ∧
        watched.watch.phase = .waiting ∧
        watched.watch.deadline = none ∧
        watched.watch.lastRevision = some (.version 2) ∧
        watched.source.version = 3 ∧
        watched.LosesNoEdit := by
  have accepted : (Document.load noDomains).value = .ok {} := by cbv
  have runs : (Engine.start (StaticSource.new noDomains).toSource).value = .ok _ :=
    Engine.value_start rfl accepted
  refine ⟨_, runs, ?_⟩
  intro edited started watched
  have loading : (started.after editedDuringReload).watch.phase = .loading (some (.version 2)) :=
    rfl
  -- What the reload comes to is left open, so that no fingerprint has to be computed.
  have finished : watched = (started.after editedDuringReload).next (.work false 9 9) :=
    started.after_append editedDuringReload [.work false 9 9]
  simp only [next, Watch.next_of_loading loading] at finished
  refine ⟨rfl, ?_, ?_, ?_, rfl, loses_no_edit runs _ _ _ _⟩
  · rw [finished]
  · rw [finished]
    rfl
  · rw [finished]
    rfl

end Watched

end WorkflowGuard
