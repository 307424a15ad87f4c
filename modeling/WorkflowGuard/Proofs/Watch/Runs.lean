import WorkflowGuard.Watch

/-!
# Runs of a watcher

The worker goes from phase to phase while notifications arrive and others use the engine. A run
is a list of such actions in any order. A step of the worker brings its own clock readings and
the answers that the source gives at that moment, so nothing is assumed about the clock or about
what happens to the source in between.

What a step of the worker can do is said once, by the relation `Advances`, with a constructor for
each way through each phase. Every invariant of runs is a case analysis on it.
-/

namespace WorkflowGuard

/-- A debounce window has closed, and the reload that follows has not returned. -/
def WatchPhase.inAttempt : WatchPhase → Bool
  | starting | loading _ => true
  | waiting | polling _ | checking _ => false

namespace Watch

/-- What can happen to a watcher next. -/
inductive Action where
  | notify
  /-- The worker goes one phase further. -/
  | work (takes : Bool) (received now : Nat) (source : Source)
  /-- Other callers have used the engine, which is now this one. -/
  | serve (engine : Engine)
  | stop

/-- A worker that has been stopped may still finish its round, so its steps remain possible. -/
def next (watch : Watch) : Action → Watch
  | .notify => watch.notify
  | .work takes received now source => (watch.advance takes received now source).value
  | .serve engine => { watch with engine }
  | .stop => watch.stop

def after (watch : Watch) (actions : List Action) : Watch :=
  actions.foldl next watch

theorem after_cons (watch : Watch) (action : Action) (later : List Action) :
    watch.after (action :: later) = (watch.next action).after later := rfl

theorem after_append (watch : Watch) (earlier later : List Action) :
    watch.after (earlier ++ later) = (watch.after earlier).after later :=
  List.foldl_append

/-- The ways in which the worker goes one phase further. -/
inductive Advances (watch : Watch) (takes : Bool) (received now : Nat) (source : Source) :
    Watch → Prop where
  | taken (phase : watch.phase = .waiting) (takesOne : takes = true) (waits : 0 < watch.queue) :
      Advances watch takes received now source
        { watch with
          queue := watch.queue - 1
          deadline := some (received + watch.config.debounce)
          phase := .polling now }
  | timedOut (phase : watch.phase = .waiting) (takesNone : takes = true → watch.queue = 0) :
      Advances watch takes received now source { watch with phase := .polling now }
  | changed {time due interval : Nat} (phase : watch.phase = .polling time)
      (scheduled : watch.nextPoll = some due) (polls : watch.config.pollInterval = some interval)
      (isDue : due ≤ time) (differs : source.currentRevision ≠ watch.lastRevision) :
      Advances watch takes received now source
        { watch.countSignal with
          nextPoll := some (time + interval)
          lastRevision := source.currentRevision
          deadline := some (time + watch.config.debounce)
          phase := .checking time }
  | unchanged {time due interval : Nat} (phase : watch.phase = .polling time)
      (scheduled : watch.nextPoll = some due) (polls : watch.config.pollInterval = some interval)
      (isDue : due ≤ time) (same : source.currentRevision = watch.lastRevision) :
      Advances watch takes received now source
        { watch with nextPoll := some (time + interval), phase := .checking time }
  | notDue {time : Nat} (phase : watch.phase = .polling time)
      (early : ∀ due interval, watch.nextPoll = some due →
        watch.config.pollInterval = some interval → time < due) :
      Advances watch takes received now source { watch with phase := .checking time }
  | begun {time due : Nat} (phase : watch.phase = .checking time)
      (window : watch.deadline = some due) (closed : due ≤ time) :
      Advances watch takes received now source
        { watch with
          deadline := none
          lastRevision := source.currentRevision
          phase := .starting }
  | idle {time : Nat} (phase : watch.phase = .checking time)
      (window : ∀ due, watch.deadline = some due → time < due) :
      Advances watch takes received now source { watch with phase := .waiting }
  | read (phase : watch.phase = .starting) :
      Advances watch takes received now source
        { watch with phase := .loading source.currentRevision }
  | finished {revision : Option Revision} (phase : watch.phase = .loading revision) :
      Advances watch takes received now source
        (let result := (watch.engine.reloadFrom Coordinator.reloadBytesIfChanged revision
          source.contents).value
        { watch with
          engine := result.1
          counters := count watch.counters result.2
          phase := .waiting })

variable {watch result : Watch} {takes : Bool} {received now : Nat} {source : Source}

theorem advances_poll {time : Nat} (phase : watch.phase = .polling time) :
    Advances watch takes received now source (watch.poll time source) := by
  unfold poll
  split
  case h_1 due interval scheduled polls =>
    rcases Nat.lt_or_ge time due with early | isDue
    · rw [if_neg (Nat.not_le_of_lt early)]
      apply Advances.notDue phase
      intro due' interval' scheduled' polls'
      rw [scheduled] at scheduled'
      cases scheduled'
      exact early
    · rw [if_pos isDue]
      rcases Classical.em (source.currentRevision = watch.lastRevision) with same | differs
      · simp only [if_pos same]
        exact .unchanged phase scheduled polls isDue same
      · simp only [if_neg differs]
        exact .changed phase scheduled polls isDue differs
  case h_2 unscheduled =>
    apply Advances.notDue phase
    intro due interval scheduled polls
    exact absurd polls (unscheduled due interval scheduled)

theorem advances_check {time : Nat} (phase : watch.phase = .checking time) :
    Advances watch takes received now source (watch.check time source) := by
  unfold check
  split
  case isTrue closed =>
    simp only [Option.any_eq_true, decide_eq_true_eq] at closed
    rcases closed with ⟨due, window, closed⟩
    exact .begun phase window closed
  case isFalse opened =>
    apply Advances.idle phase
    intro due window
    simpa [window] using opened

/-- A finished attempt is counted by its outcome, and the revision that was read before is
remembered. -/
theorem value_finish (watch : Watch) (revision : Option Revision) (source : Source) :
    (watch.finish revision source).value =
      let result := (watch.engine.reloadFrom Coordinator.reloadBytesIfChanged revision
        source.contents).value
      { watch with
        engine := result.1
        counters := count watch.counters result.2
        phase := .waiting } := by
  simp only [finish, Logged.value_bind]
  split <;> rfl

theorem next_of_loading {revision : Option Revision} (phase : watch.phase = .loading revision) :
    watch.next (.work takes received now source) =
      let result := (watch.engine.reloadFrom Coordinator.reloadBytesIfChanged revision
        source.contents).value
      { watch with
        engine := result.1
        counters := count watch.counters result.2
        phase := .waiting } := by
  simp only [next, advance, phase, value_finish]

/-- Every action of the worker is one way through the phase that it is in. -/
theorem advances_next (watch : Watch) (takes : Bool) (received now : Nat) (source : Source) :
    Advances watch takes received now source (watch.next (.work takes received now source)) := by
  simp only [next, advance]
  split
  case h_1 phase =>
    rw [Logged.value_pure, wake]
    split
    case isTrue taken =>
      simp only [Bool.and_eq_true, decide_eq_true_eq] at taken
      exact .taken phase taken.1 taken.2
    case isFalse notTaken =>
      simp only [Bool.and_eq_true, decide_eq_true_eq, not_and] at notTaken
      exact .timedOut phase fun takesOne => Nat.eq_zero_of_not_pos (notTaken takesOne)
  case h_2 time phase => exact advances_poll phase
  case h_3 time phase => exact advances_check phase
  case h_4 phase => exact .read phase
  case h_5 revision phase =>
    rw [value_finish]
    exact .finished phase

theorem phase_wake (watch : Watch) (takes : Bool) (received now : Nat) :
    (watch.wake takes received now).phase = .polling now := by
  unfold wake
  split <;> rfl

theorem phase_poll (watch : Watch) (now : Nat) (source : Source) :
    (watch.poll now source).phase = .checking now := by
  unfold poll
  split
  · split
    · dsimp only
      split <;> rfl
    · rfl
  · rfl

/-- A round during which the source stays as it is, is a run of the worker alone. -/
theorem value_iterate (waiting : watch.phase = .waiting) (takes : Bool) (now : Nat)
    (source : Source) :
    ∃ phases, (watch.iterate takes now source).value =
      watch.after (List.replicate phases (.work takes now now source)) := by
  have first : watch.next (.work takes now now source) = watch.wake takes now now := by
    simp only [next, advance, waiting, Logged.value_pure]
  have second : (watch.wake takes now now).next (.work takes now now source) =
      (watch.wake takes now now).poll now source := by
    simp only [next, advance, phase_wake, Logged.value_pure]
  have third : ((watch.wake takes now now).poll now source).next (.work takes now now source) =
      ((watch.wake takes now now).poll now source).check now source := by
    simp only [next, advance, phase_poll, Logged.value_pure]
  have decided : watch.after (List.replicate 3 (.work takes now now source)) =
      ((watch.wake takes now now).poll now source).check now source := by
    simp only [List.replicate, after, List.foldl, first, second, third]
  simp only [iterate]
  split
  case h_1 starting =>
    refine ⟨3 + 2, ?_⟩
    rw [← List.replicate_append_replicate, after_append, decided]
    generalize ((watch.wake takes now now).poll now source).check now source = decided at starting
    simp only [List.replicate, after, List.foldl, next, advance, starting, Logged.value_pure,
      value_finish]
  case h_2 =>
    exact ⟨3, decided.symm⟩

/-- The action begins a reload attempt: the worker closes the debounce window. -/
def begins (watch : Watch) : Action → Bool
  | .work takes received now source =>
      (watch.next (.work takes received now source)).phase = .starting
  | _ => false

/-- The number of reload attempts that begin in the course of the actions. -/
def begun (watch : Watch) : List Action → Nat
  | [] => 0
  | action :: later => (watch.begins action).toNat + (watch.next action).begun later

/-- The number of attempts that have begun, with or without a result yet. -/
def attempts (watch : Watch) : Nat :=
  watch.counters.attempts + watch.phase.inAttempt.toNat

theorem attempts_count (counters : WatchCounters) (outcome : Except EngineError ReloadOutcome) :
    (count counters outcome).attempts = counters.attempts + 1 := by
  rcases outcome with error | ⟨⟨⟩ | ⟨⟩⟩ <;> simp only [count, WatchCounters.attempts] <;> omega

@[simp]
theorem attempts_countSignal (watch : Watch) :
    watch.countSignal.counters.attempts = watch.counters.attempts := rfl

/-- An attempt is counted when it is begun. -/
theorem attempts_next (watch : Watch) (action : Action) :
    (watch.next action).attempts = watch.attempts + (watch.begins action).toNat := by
  cases action with
  | notify =>
      simp only [next, notify, tryNotify]
      split <;> rfl
  | serve engine => rfl
  | stop => rfl
  | work takes received now source =>
      simp only [begins]
      have advances := watch.advances_next takes received now source
      generalize watch.next (.work takes received now source) = result at advances ⊢
      cases advances <;> simp [attempts, *, attempts_count, WatchPhase.inAttempt]

/-- Each attempt that begins is counted once, when it returns. -/
theorem attempts_after (watch : Watch) (actions : List Action) :
    (watch.after actions).attempts = watch.attempts + watch.begun actions := by
  induction actions generalizing watch with
  | nil => rfl
  | cons action later ih =>
      rw [after_cons, ih, attempts_next, begun, Nat.add_assoc]

end Watch

end WorkflowGuard
