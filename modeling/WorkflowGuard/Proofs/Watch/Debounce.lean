import Mathlib.Data.List.Induction
import WorkflowGuard.Proofs.Engine.Service
import WorkflowGuard.Proofs.Watch.Runs

/-!
# The debounce, and the accounts of a watcher

A reload is attempted when signals have been quiet for the debounce. The journal of a run holds
the signals that the worker processed and the attempts that it began, each with its time. As
long as the debounce window is open, the last entry of the journal is a signal, and the window
ends one debounce after it. Notifications and polls both restart the window, at different
readings of the clock in the same round; if the clock does not go back, the last signal is also
the latest one.

The accounts balance because each signal that is counted pays for at most one attempt. It waits
in the queue, then it keeps the window open, then its attempt is under way, and then the attempt
is counted.
-/

namespace WorkflowGuard

/-- The clock as it was read last, as long as the worker goes by it. -/
def WatchPhase.reading? : WatchPhase → Option Nat
  | polling now | checking now => some now
  | waiting | starting | loading _ => none

namespace Watch

/-- What the worker does that a debounce is about. -/
inductive Moment where
  /-- A notification is received, or a change of the revision is found. -/
  | signal (time : Nat)
  /-- The worker begins to reload. -/
  | attempt (time : Nat)
  deriving DecidableEq, Repr

def Moment.isAttempt : Moment → Bool
  | signal _ => false
  | attempt _ => true

/-- A look at the revision is due and finds another one than before. -/
def findsChange (watch : Watch) (time : Nat) (source : Source) : Bool :=
  watch.config.pollInterval.isSome && watch.nextPoll.any (· ≤ time) &&
    source.currentRevision != watch.lastRevision

/-- The worker finds a change when a poll is due and the source shows another revision. -/
theorem findsChange_iff {watch : Watch} {time : Nat} {source : Source} :
    watch.findsChange time source = true ↔
      (∃ due interval, watch.nextPoll = some due ∧ watch.config.pollInterval = some interval ∧
        due ≤ time) ∧ source.currentRevision ≠ watch.lastRevision := by
  cases scheduled : watch.nextPoll <;> cases polls : watch.config.pollInterval <;>
    simp [findsChange, scheduled, polls]

/-- The worker reads the clock when it receives a notification, and when its wait is over. -/
def readings (watch : Watch) : Action → List Nat
  | .work takes received now _ =>
      match watch.phase with
      | .waiting => if takes && 0 < watch.queue then [received, now] else [now]
      | .polling _ | .checking _ | .starting | .loading _ => []
  | .notify | .serve _ | .stop => []

def moments (watch : Watch) : Action → List Moment
  | .work takes received now source =>
      match watch.phase with
      | .waiting => if takes && 0 < watch.queue then [.signal received] else []
      | .polling time => if watch.findsChange time source then [.signal time] else []
      | .checking time =>
          if watch.begins (.work takes received now source) then [.attempt time] else []
      | .starting | .loading _ => []
  | .notify | .serve _ | .stop => []

/-- The registry that the worker makes live. -/
def installations (watch : Watch) : Action → List Registry
  | .work takes received now source =>
      let result := watch.next (.work takes received now source)
      if watch.engine.coordinator.nextGeneration < result.engine.coordinator.nextGeneration then
        [result.engine.registry]
      else []
  | .notify | .serve _ | .stop => []

/-- What is observed in the course of the actions, in order. -/
def observed {α : Type} (observe : Watch → Action → List α) (watch : Watch) :
    List Action → List α
  | [] => []
  | action :: later => observe watch action ++ (watch.next action).observed observe later

def clock (watch : Watch) (actions : List Action) : List Nat :=
  watch.observed readings actions

def journal (watch : Watch) (actions : List Action) : List Moment :=
  watch.observed moments actions

theorem after_concat (watch : Watch) (actions : List Action) (action : Action) :
    watch.after (actions ++ [action]) = (watch.after actions).next action :=
  List.foldl_concat _ _ _ _

theorem observed_concat {α : Type} (observe : Watch → Action → List α) (watch : Watch)
    (actions : List Action) (action : Action) :
    watch.observed observe (actions ++ [action]) =
      watch.observed observe actions ++ observe (watch.after actions) action := by
  induction actions generalizing watch with
  | nil => exact List.append_nil _
  | cons first later ih =>
      rw [List.cons_append, observed, ih, observed, List.append_assoc]
      rfl

/-- What an action does to the debounce window, by what it leaves on the clock and in the
journal. -/
inductive Marks (watch result : Watch) : List Nat → List Moment → Prop where
  | received {received now : Nat}
      (window : result.deadline = some (received + watch.config.debounce))
      (phase : result.phase.reading? = some now) :
      Marks watch result [received, now] [.signal received]
  | woken {now : Nat} (window : result.deadline = watch.deadline)
      (phase : result.phase.reading? = some now) :
      Marks watch result [now] []
  | found {time : Nat} (read : watch.phase.reading? = some time)
      (window : result.deadline = some (time + watch.config.debounce))
      (phase : result.phase.reading? = some time) :
      Marks watch result [] [.signal time]
  | begun {time due : Nat} (read : watch.phase.reading? = some time)
      (opened : watch.deadline = some due) (closed : due ≤ time)
      (window : result.deadline = none) (phase : result.phase.reading? = none) :
      Marks watch result [] [.attempt time]
  | nothing (window : result.deadline = watch.deadline)
      (phase : result.phase.reading? = watch.phase.reading? ∨ result.phase.reading? = none) :
      Marks watch result [] []

section Marks

variable {watch result : Watch} {takes : Bool} {received now : Nat} {source : Source}

theorem marks_of_advances (advances : Advances watch takes received now source result)
    (same : watch.next (.work takes received now source) = result) :
    Marks watch result (watch.readings (.work takes received now source))
      (watch.moments (.work takes received now source)) := by
  simp only [readings, moments, begins, same]
  cases advances with
  | taken phase takesOne waits =>
      simp only [phase, takesOne, waits]
      exact .received rfl rfl
  | timedOut phase takesNone =>
      have notTaken : (takes && decide (0 < watch.queue)) = false := by
        cases takes with
        | false => rfl
        | true => simp [takesNone rfl]
      simp only [phase, notTaken]
      exact .woken rfl rfl
  | changed phase scheduled polls isDue differs =>
      have finds := findsChange_iff.mpr ⟨⟨_, _, scheduled, polls, isDue⟩, differs⟩
      simp only [phase, finds]
      exact .found (by rw [phase]; rfl) rfl rfl
  | unchanged phase scheduled polls isDue unchanged =>
      have findsNone : ∀ time, watch.findsChange time source = false := by
        intro time
        rw [Bool.eq_false_iff]
        intro finds
        exact (findsChange_iff.mp finds).2 unchanged
      simp only [phase, findsNone]
      exact .nothing rfl (.inl (by rw [phase]; rfl))
  | @notDue time phase early =>
      have findsNone : watch.findsChange time source = false := by
        rw [Bool.eq_false_iff]
        intro finds
        rcases (findsChange_iff.mp finds).1 with ⟨due, interval, scheduled, polls, isDue⟩
        exact Nat.not_le_of_lt (early due interval scheduled polls) isDue
      simp only [phase, findsNone]
      exact .nothing rfl (.inl (by rw [phase]; rfl))
  | begun phase opened closed =>
      simp only [phase]
      exact .begun (by rw [phase]; rfl) opened closed rfl rfl
  | idle phase opened =>
      simp only [phase]
      exact .nothing rfl (.inr rfl)
  | read phase =>
      simp only [phase]
      exact .nothing rfl (.inr rfl)
  | finished phase =>
      simp only [phase]
      exact .nothing rfl (.inr rfl)

/-- Every action leaves its marks in the journal and on the clock. -/
theorem marks_next (watch : Watch) (action : Action) :
    Marks watch (watch.next action) (watch.readings action) (watch.moments action) := by
  cases action with
  | notify =>
      simp only [next, notify, tryNotify]
      split <;> exact .nothing rfl (.inl rfl)
  | work takes received now source =>
      exact marks_of_advances (watch.advances_next takes received now source) rfl
  | serve engine => exact .nothing rfl (.inl rfl)
  | stop => exact .nothing rfl (.inl rfl)

theorem config_next (watch : Watch) (action : Action) :
    (watch.next action).config = watch.config := by
  cases action with
  | notify =>
      simp only [next, notify, tryNotify]
      split <;> rfl
  | work takes received now source =>
      have advances := watch.advances_next takes received now source
      generalize watch.next (.work takes received now source) = result at advances
      cases advances <;> rfl
  | serve engine => rfl
  | stop => rfl

end Marks

/-- The attempt answers a signal that no attempt has answered before, and the last signal is at
least a debounce ago. -/
structure Answers (debounce : Nat) (earlier : List Moment) (now : Nat) : Prop where
  signalled : ∃ before time since, earlier = before ++ .signal time :: since ∧
    ∀ other, .attempt other ∉ since
  quiet : ∀ time, .signal time ∈ earlier → time + debounce ≤ now

/-- Every attempt of the journal answers to what came before it. -/
def Paced (debounce : Nat) (journal : List Moment) : Prop :=
  ∀ earlier now, earlier ++ [.attempt now] <+: journal → Answers debounce earlier now

section Paced

variable {debounce : Nat} {journal : List Moment}

theorem Paced.signal (paced : Paced debounce journal) (time : Nat) :
    Paced debounce (journal ++ [.signal time]) := by
  intro earlier now began
  rcases List.prefix_concat_iff.mp began with all | began
  · cases (List.append_inj' all rfl).2
  · exact paced earlier now began

/-- A further attempt must answer the signals before it. -/
theorem Paced.attempt (paced : Paced debounce journal) {now : Nat}
    (answers : Answers debounce journal now) : Paced debounce (journal ++ [.attempt now]) := by
  intro earlier other began
  rcases List.prefix_concat_iff.mp began with all | began
  · obtain ⟨rfl, same⟩ := List.append_inj' all rfl
    cases same
    exact answers
  · exact paced earlier other began

end Paced

/-- The clock showed the time, and no later one. -/
def Latest (clock : List Nat) (time : Nat) : Prop :=
  time ∈ clock ∧ ∀ reading ∈ clock, reading ≤ time

theorem latest_of_monotone {earlier : List Nat} {time : Nat}
    (monotone : (earlier ++ [time]).Pairwise (· ≤ ·)) : Latest (earlier ++ [time]) time := by
  refine ⟨List.mem_append_right _ List.mem_cons_self, ?_⟩
  intro reading member
  rcases List.mem_append.mp member with before | same
  · exact (List.pairwise_append.mp monotone).2.2 reading before time List.mem_cons_self
  · exact Nat.le_of_eq (List.mem_singleton.mp same)

/-- The watcher agrees with the clock and with the journal of its run. -/
structure Windowed (watch : Watch) (clock : List Nat) (journal : List Moment) : Prop where
  paced : Paced watch.config.debounce journal
  timed : ∀ time, .signal time ∈ journal → time ∈ clock
  latest : ∀ time, watch.phase.reading? = some time → Latest clock time
  /-- An open window was opened by the last entry of the journal, the latest signal. -/
  window : ∀ due, watch.deadline = some due →
    ∃ before time, journal = before ++ [.signal time] ∧ due = time + watch.config.debounce ∧
      ∀ other, .signal other ∈ journal → other ≤ time

section Windowed

variable {watch result : Watch} {clock : List Nat} {journal : List Moment}

/-- When an open window is due, an attempt answers the signals that opened it. -/
theorem Windowed.answers (windowed : watch.Windowed clock journal) {due now : Nat}
    (opened : watch.deadline = some due) (closed : due ≤ now) :
    Answers watch.config.debounce journal now := by
  rcases windowed.window due opened with ⟨before, time, rfl, rfl, last⟩
  constructor
  case signalled => exact ⟨before, time, [], rfl, fun _ => List.not_mem_nil⟩
  case quiet =>
    intro other member
    have notLater := last other member
    omega

/-- A signal restarts the window. It is the latest one, since the clock does not go back. -/
theorem Windowed.signal (windowed : watch.Windowed clock journal) {later : List Nat}
    {time now : Nat} (config : result.config = watch.config)
    (member : time ∈ clock ++ later) (last : ∀ reading ∈ clock, reading ≤ time)
    (opened : result.deadline = some (time + watch.config.debounce))
    (phase : result.phase.reading? = some now) (latest : Latest (clock ++ later) now) :
    result.Windowed (clock ++ later) (journal ++ [.signal time]) := by
  have timed : ∀ other, .signal other ∈ journal ++ [.signal time] →
      other ∈ clock ++ later ∧ other ≤ time := by
    intro other noted
    rcases List.mem_append.mp noted with earlier | same
    · have known := windowed.timed other earlier
      exact ⟨List.mem_append_left _ known, last other known⟩
    · cases List.mem_singleton.mp same
      exact ⟨member, Nat.le_refl _⟩
  constructor
  case paced =>
    rw [config]
    exact windowed.paced.signal time
  case timed => exact fun other noted => (timed other noted).1
  case latest =>
    intro reading read
    rw [phase] at read
    cases read
    exact latest
  case window =>
    intro due opens
    rw [opened] at opens
    cases opens
    exact ⟨journal, time, rfl, by rw [config], fun other noted => (timed other noted).2⟩

/-- An attempt closes the window, and the worker forgets the time. -/
theorem Windowed.attempt (windowed : watch.Windowed clock journal) {due now : Nat}
    (config : result.config = watch.config) (opened : watch.deadline = some due)
    (closed : due ≤ now) (shut : result.deadline = none)
    (phase : result.phase.reading? = none) :
    result.Windowed clock (journal ++ [.attempt now]) := by
  constructor
  case paced =>
    rw [config]
    exact windowed.paced.attempt (windowed.answers opened closed)
  case timed =>
    intro other noted
    rcases List.mem_append.mp noted with earlier | same
    · exact windowed.timed other earlier
    · cases List.mem_singleton.mp same
  case latest =>
    intro time read
    rw [phase] at read
    cases read
  case window =>
    intro other opens
    rw [shut] at opens
    cases opens

/-- Every action keeps the window in step with the journal. -/
theorem Windowed.next (windowed : watch.Windowed clock journal) (action : Action)
    (monotone : (clock ++ watch.readings action).Pairwise (· ≤ ·)) :
    (watch.next action).Windowed (clock ++ watch.readings action)
      (journal ++ watch.moments action) := by
  have marks := watch.marks_next action
  have config := watch.config_next action
  generalize watch.next action = result at marks config ⊢
  generalize watch.readings action = readings at marks monotone ⊢
  generalize watch.moments action = moments at marks ⊢
  cases marks with
  | @received received now opened phase =>
      -- The window runs from the first of two readings, and the round goes by the second.
      rw [List.append_cons] at monotone ⊢
      have latest := latest_of_monotone monotone
      have latestReceived := latest_of_monotone (List.pairwise_append.mp monotone).1
      rw [← List.append_cons] at latest ⊢
      apply windowed.signal config _ _ opened phase latest
      · exact List.mem_append_right _ List.mem_cons_self
      · exact fun reading before => latestReceived.2 reading (List.mem_append_left _ before)
  | @woken now same phase =>
      rcases windowed with ⟨paced, timed, latest, window⟩
      rw [List.append_nil]
      constructor
      case paced => rwa [config]
      case timed => exact fun time noted => List.mem_append_left _ (timed time noted)
      case latest =>
        intro time read
        rw [phase] at read
        cases read
        exact latest_of_monotone monotone
      case window => rwa [same, config]
  | @found time read opened phase =>
      have latest := windowed.latest time read
      rw [← List.append_nil clock] at latest
      exact windowed.signal config latest.1 (windowed.latest time read).2 opened phase latest
  | @begun time due read opened closed shut phase =>
      rw [List.append_nil]
      exact windowed.attempt config opened closed shut phase
  | nothing same phase =>
      rcases windowed with ⟨paced, timed, latest, window⟩
      rw [List.append_nil, List.append_nil]
      constructor
      case paced => rwa [config]
      case timed => exact timed
      case latest =>
        intro time read
        rcases phase with kept | none
        · exact latest time (kept ▸ read)
        · rw [none] at read
          cases read
      case window => rwa [same, config]

end Windowed

theorem windowed_spawn (engine : Engine) (config : WatchConfig) (now : Nat) :
    (spawn engine config now).Windowed [] [] := by
  constructor
  case paced =>
    intro earlier now began
    simp at began
  case timed => simp
  case latest => nofun
  case window => nofun

theorem windowed_after {start : Watch} (windowed : start.Windowed [] []) (actions : List Action)
    (monotone : (start.clock actions).Pairwise (· ≤ ·)) :
    (start.after actions).Windowed (start.clock actions) (start.journal actions) := by
  induction actions using List.reverseRecOn with
  | nil => exact windowed
  | append_singleton actions action ih =>
      rw [clock, observed_concat] at monotone ⊢
      rw [journal, observed_concat, after_concat]
      exact (ih (List.pairwise_append.mp monotone).1).next action monotone

theorem config_after (watch : Watch) (actions : List Action) :
    (watch.after actions).config = watch.config := by
  induction actions generalizing watch with
  | nil => rfl
  | cons action later ih => rw [after_cons, ih, config_next]

/-- The ways in which an attempt returns. The worker goes on to the next round in each of
them. -/
inductive Concludes (watch : Watch) : Watch → Prop where
  | reloaded (registry : Registry) (revision : Option Revision) :
      Concludes watch
        { watch with
          engine := ⟨⟨registry.withGeneration watch.engine.coordinator.nextGeneration,
            watch.engine.coordinator.nextGeneration + 1⟩, revision⟩
          counters.reloads := watch.counters.reloads + 1
          phase := .waiting }
  | skipped (revision : Option Revision) :
      Concludes watch
        { watch with
          engine.loadedRevision := revision
          counters.skipped := watch.counters.skipped + 1
          phase := .waiting }
  | failed :
      Concludes watch
        { watch with
          counters.failures := watch.counters.failures + 1
          phase := .waiting }

/-- An attempt was under way, and the action ends it. -/
def returns (watch : Watch) (action : Action) : Bool :=
  watch.phase.inAttempt && !(watch.next action).phase.inAttempt

/-- The action ends no attempt. It counts none then, and only others change the engine. -/
structure Leaves (watch : Watch) (action : Action) : Prop where
  reloads : (watch.next action).counters.reloads = watch.counters.reloads
  skipped : (watch.next action).counters.skipped = watch.counters.skipped
  failures : (watch.next action).counters.failures = watch.counters.failures
  engine : (∀ engine, action ≠ .serve engine) → (watch.next action).engine = watch.engine

section Accounts

variable {watch : Watch} {action : Action} {takes : Bool} {received now : Nat} {source : Source}

theorem concludes_of_loading {revision : Option Revision}
    (phase : watch.phase = .loading revision) :
    Concludes watch (watch.next (.work takes received now source)) := by
  rw [next_of_loading phase]
  cases source.contents with
  | error error => exact .failed
  | ok bytes =>
      rcases watch.engine.reloadFrom_cases Coordinator.reloadsBytes_reloadBytesIfChanged revision
        bytes with ⟨_, result⟩ | ⟨document, _, result⟩ | ⟨error, _, result⟩
      · simp only [result]
        exact .skipped revision
      · simp only [result]
        exact .reloaded _ revision
      · simp only [result]
        exact .failed

/-- An action that ends no attempt leaves the engine and the numbers of its outcomes alone. -/
theorem leaves_of_not_returns (returnsNot : watch.returns action = false) :
    watch.Leaves action := by
  cases action with
  | notify =>
      constructor
      all_goals
        simp only [next, notify, tryNotify]
        split <;> intros <;> rfl
  | serve engine => exact ⟨rfl, rfl, rfl, fun others => absurd rfl (others engine)⟩
  | stop => exact ⟨rfl, rfl, rfl, fun _ => rfl⟩
  | work takes received now source =>
      have advances := watch.advances_next takes received now source
      generalize next : watch.next (.work takes received now source) = result at advances
      rw [returns, next] at returnsNot
      cases advances with
      | finished phase =>
          rw [phase] at returnsNot
          cases returnsNot
      | _ => constructor <;> rw [next] <;> intros <;> rfl

theorem phase_next
    (others : ∀ takes received now source, action ≠ .work takes received now source) :
    (watch.next action).phase = watch.phase := by
  cases action with
  | notify =>
      simp only [next, notify, tryNotify]
      split <;> rfl
  | work takes received now source => exact absurd rfl (others takes received now source)
  | serve engine | stop => rfl

/-- Only the worker ends an attempt, with a step that counts it. -/
theorem concludes_of_returns (returns : watch.returns action = true) :
    ∃ takes received now source, action = .work takes received now source ∧
      Concludes watch (watch.next action) := by
  simp only [Watch.returns, Bool.and_eq_true, Bool.not_eq_true'] at returns
  rcases returns with ⟨before, after⟩
  cases action with
  | work takes received now source =>
      refine ⟨takes, received, now, source, rfl, ?_⟩
      cases phase : watch.phase with
      | loading revision => exact concludes_of_loading phase
      | starting =>
          simp only [next, advance, phase, Logged.value_pure, WatchPhase.inAttempt] at after
          cases after
      | waiting | polling time | checking time =>
          rw [phase] at before
          cases before
  | notify | serve engine | stop =>
      rw [phase_next (by simp), before] at after
      cases after

theorem countP_moments (watch : Watch) (action : Action) :
    (watch.moments action).countP Moment.isAttempt = (watch.begins action).toNat := by
  cases action with
  | notify | serve engine | stop => rfl
  | work takes received now source =>
      have advances := watch.advances_next takes received now source
      generalize next : watch.next (.work takes received now source) = result at advances
      simp only [moments, begins, next]
      cases advances <;> simp [*, apply_ite, Moment.isAttempt]

theorem countP_journal (watch : Watch) (actions : List Action) :
    (watch.journal actions).countP Moment.isAttempt = watch.begun actions := by
  rw [journal]
  induction actions generalizing watch with
  | nil => rfl
  | cons action later ih => rw [observed, List.countP_append, countP_moments, ih, begun]

theorem reloads_next (watch : Watch) (action : Action) :
    (watch.next action).counters.reloads =
      watch.counters.reloads + (watch.installations action).length := by
  cases returned : watch.returns action with
  | true =>
      rcases concludes_of_returns returned with ⟨takes, received, now, source, rfl, concludes⟩
      simp only [installations]
      generalize watch.next (.work takes received now source) = result at concludes
      cases concludes <;> simp
  | false =>
      have leaves := leaves_of_not_returns returned
      rw [leaves.reloads]
      cases action with
      | notify | serve engine | stop => rfl
      | work takes received now source => simp [installations, leaves.engine]

theorem rawEvents_count (counters : WatchCounters) (outcome : Except EngineError ReloadOutcome) :
    (count counters outcome).rawEvents = counters.rawEvents := by
  rcases outcome with error | ⟨⟨⟩ | ⟨⟩⟩ <;> rfl

/-- Signals that are counted pay for attempts: each of them is in the queue, or has opened the
window, or an attempt has begun on it, or it has made no difference. -/
def Pays (watch : Watch) : Prop :=
  watch.attempts + watch.deadline.isSome.toNat + watch.queue ≤ watch.counters.rawEvents

/-- What is begun, open or queued is paid for by signals that were received. -/
theorem signals_next (watch : Watch) (action : Action) :
    (watch.begins action).toNat + (watch.next action).deadline.isSome.toNat +
        (watch.next action).queue + watch.counters.rawEvents ≤
      watch.deadline.isSome.toNat + watch.queue + (watch.next action).counters.rawEvents := by
  cases action with
  | notify =>
      simp only [begins, next, notify, tryNotify, countSignal]
      split <;> simp only [Bool.toNat_false] <;> omega
  | serve engine | stop => exact Nat.le_of_eq (by simp [begins, next, stop])
  | work takes received now source =>
      have advances := watch.advances_next takes received now source
      simp only [begins]
      generalize watch.next (.work takes received now source) = result at advances ⊢
      have window := Bool.toNat_le watch.deadline.isSome
      cases advances <;> simp [*, countSignal, rawEvents_count] <;> omega

theorem Pays.next (pays : watch.Pays) (action : Action) : (watch.next action).Pays := by
  have begun := watch.attempts_next action
  have signals := watch.signals_next action
  simp only [Pays] at pays ⊢
  omega

theorem Pays.after (pays : watch.Pays) (actions : List Action) : (watch.after actions).Pays := by
  induction actions generalizing watch with
  | nil => exact pays
  | cons action later ih => exact ih (pays.next action)

theorem reloads_after (watch : Watch) (actions : List Action) :
    (watch.after actions).counters.reloads =
      watch.counters.reloads + (watch.observed installations actions).length := by
  induction actions generalizing watch with
  | nil => rfl
  | cons action later ih =>
      rw [after_cons, ih, reloads_next, observed, List.length_append, Nat.add_assoc]

end Accounts

/-- What the watcher has counted after the actions, and what the next action counts. -/
structure Accounts (start : Watch) (actions : List Action) : Prop where
  /-- The attempts of the journal are counted, except for one that is under way. -/
  attempts_eq :
    (start.after actions).counters.attempts + (start.after actions).phase.inAttempt.toNat =
      (start.journal actions).countP Moment.isAttempt
  reloads_eq :
    (start.after actions).counters.reloads = (start.observed installations actions).length
  /-- The end of an attempt counts it once. -/
  concludes : ∀ action, (start.after actions).returns action = true →
    Concludes (start.after actions) ((start.after actions).next action)
  leaves : ∀ action, (start.after actions).returns action = false →
    (start.after actions).Leaves action
  attempts_le :
    (start.after actions).counters.attempts ≤ (start.after actions).counters.rawEvents

/-- From its start on, a worker accounts for every attempt. -/
theorem accounts_spawn (engine : Engine) (config : WatchConfig) (now : Nat)
    (actions : List Action) : (spawn engine config now).Accounts actions := by
  have attempts := (spawn engine config now).attempts_after actions
  rw [← countP_journal, show (spawn engine config now).attempts = 0 from rfl, Nat.zero_add]
    at attempts
  have pays : (spawn engine config now).Pays := Nat.le_refl 0
  have paysAfter := pays.after actions
  constructor
  case attempts_eq => exact attempts
  case reloads_eq =>
    rw [reloads_after]
    exact Nat.zero_add _
  case concludes =>
    intro action returned
    rcases concludes_of_returns returned with ⟨_, _, _, _, _, concludes⟩
    exact concludes
  case leaves =>
    intro action returnedNot
    exact leaves_of_not_returns returnedNot
  case attempts_le =>
    simp only [Pays, Watch.attempts] at paysAfter
    omega

/-- However notifications, polls and timeouts follow each other, a watcher attempts a reload only
when there was a signal and a debounce has passed since the last one, and it accounts for every
attempt. -/
theorem debounces_and_accounts (engine : Engine) (config : WatchConfig) (now : Nat)
    (actions : List Action)
    (monotone : ((spawn engine config now).clock actions).Pairwise (· ≤ ·)) :
    Paced config.debounce ((spawn engine config now).journal actions) ∧
      (spawn engine config now).Accounts actions := by
  have windowed := windowed_after (windowed_spawn engine config now) actions monotone
  have paced := windowed.paced
  rw [config_after] at paced
  exact ⟨paced, accounts_spawn engine config now actions⟩

/-- A watcher over a source that has a new revision and cannot be read. -/
def overUnavailable : Watch :=
  spawn ⟨.empty, none⟩ { debounce := 5, pollInterval := some 10 } 0

/-- A notification opens a window, a poll finds the new revision just as the window closes, and
the attempt follows when the window has closed again. -/
def notifiedAndPolled : List Action :=
  let source : Source :=
    ⟨"unavailable", .ok (some (.version 2)), .error (.unavailable "unavailable")⟩
  [Action.notify] ++ List.replicate 3 (Action.work true 6 7 source) ++
    List.replicate 3 (Action.work false 11 11 source) ++
    List.replicate 5 (Action.work false 16 16 source)

theorem debounces_and_accounts_notifiedAndPolled :
    overUnavailable.clock notifiedAndPolled = [6, 7, 11, 16] ∧
      overUnavailable.journal notifiedAndPolled = [.signal 6, .signal 11, .attempt 16] ∧
      (overUnavailable.after notifiedAndPolled).counters = { rawEvents := 2, failures := 1 } ∧
      (overUnavailable.clock notifiedAndPolled).Pairwise (· ≤ ·) ∧
      Paced 5 (overUnavailable.journal notifiedAndPolled) ∧
      overUnavailable.Accounts notifiedAndPolled := by
  have clock : overUnavailable.clock notifiedAndPolled = [6, 7, 11, 16] := rfl
  have monotone : (overUnavailable.clock notifiedAndPolled).Pairwise (· ≤ ·) := by
    rw [clock]
    decide
  exact ⟨clock, rfl, rfl, monotone,
    debounces_and_accounts _ _ _ notifiedAndPolled monotone⟩

end Watch

end WorkflowGuard
