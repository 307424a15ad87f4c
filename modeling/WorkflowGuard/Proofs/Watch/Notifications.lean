import WorkflowGuard.Proofs.Watch.Runs

/-!
# No notification is lost

Notifiers share one queue, and when it is full, it takes no more notifications. Nothing is lost
by that, for all that a notification asks for is a reload attempt that begins later.

The argument is that a signal stays pending, in the queue or as an open debounce window. A
notification leaves one in the queue, even if it is dropped itself, since there is room for at
least one. The worker takes it from the queue only to open a window, and it closes a window only
to begin an attempt.
-/

namespace WorkflowGuard.Watch

/-- A notification waits, or a debounce window is open. -/
def Pending (watch : Watch) : Prop :=
  0 < watch.queue ∨ watch.deadline.isSome = true

variable {watch result : Watch} {takes : Bool} {received now : Nat} {source : Source}

/-- A phase of the worker that begins no attempt keeps the notification. -/
theorem Pending.of_advances (pending : watch.Pending)
    (advances : Advances watch takes received now source result)
    (beginsNone : result.phase ≠ .starting) : result.Pending := by
  cases advances with
  | taken phase takesOne waits => exact .inr rfl
  | timedOut phase takesNone => exact pending
  | changed phase scheduled polls isDue differs => exact .inr rfl
  | unchanged phase scheduled polls isDue same => exact pending
  | notDue phase early => exact pending
  | begun phase window closed => exact absurd rfl beginsNone
  | idle phase window => exact pending
  | read phase => exact pending
  | finished phase => exact pending

/-- While the worker runs, a notification is queued or merged with those in the queue. -/
theorem tryNotify_of_running (running : watch.running = true) :
    watch.tryNotify =
      ({ watch.countSignal with queue := min (watch.queue + 1) watch.capacity }, .ok ()) := by
  rw [tryNotify, if_pos running]

/-- After a notification there is something to be heeded, whatever the capacity. -/
theorem pending_notify (running : watch.running = true) : watch.notify.Pending := by
  left
  simp only [notify, tryNotify_of_running running, capacity]
  omega

theorem Pending.notify (pending : watch.Pending) : watch.notify.Pending := by
  cases running : watch.running with
  | true => exact pending_notify running
  | false =>
      simp only [Watch.notify, tryNotify, running]
      exact pending

theorem Pending.next (pending : watch.Pending) {action : Action}
    (beginsNone : watch.begins action = false) : (watch.next action).Pending := by
  cases action with
  | notify => exact pending.notify
  | work takes received now source =>
      apply pending.of_advances (watch.advances_next takes received now source)
      simpa only [begins, decide_eq_false_iff_not] using beginsNone
  | serve engine => exact pending
  | stop => exact pending

theorem Pending.after (pending : watch.Pending) {actions : List Action}
    (begunNone : watch.begun actions = 0) : (watch.after actions).Pending := by
  induction actions generalizing watch with
  | nil => exact pending
  | cons action later ih =>
      simp only [begun, Nat.add_eq_zero_iff, Bool.toNat_eq_zero] at begunNone
      exact ih (pending.next begunNone.1) begunNone.2

theorem running_next (watch : Watch) {action : Action}
    (running : (watch.next action).running = true) : watch.running = true := by
  cases action with
  | notify =>
      simp only [next, notify, tryNotify] at running
      split at running <;> exact running
  | work takes received now source =>
      have advances := watch.advances_next takes received now source
      generalize watch.next (.work takes received now source) = result at advances running
      cases advances <;> exact running
  | serve engine => exact running
  | stop => cases running

/-- A worker that is running has always been running. -/
theorem running_after {actions : List Action} (running : (watch.after actions).running = true) :
    watch.running = true := by
  induction actions generalizing watch with
  | nil => exact running
  | cons action later ih => exact watch.running_next (ih running)

/-- Every notification of the run is heeded: an attempt has begun after it or is due. -/
structure HeedsNotifications (start : Watch) (actions : List Action) : Prop where
  /-- A notification is never refused, neither one of the run nor the next one. -/
  accepted : ∀ earlier later, actions = earlier ++ later →
    (start.after earlier).tryNotify.2 = .ok ()
  /-- As long as no attempt has begun after a notification, one is due. -/
  pending : ∀ earlier later, actions = earlier ++ .notify :: later →
    (start.after (earlier ++ [.notify])).begun later = 0 → (start.after actions).Pending
  /-- When nothing is pending, an attempt has begun after the last notification. -/
  attempted : ¬(start.after actions).Pending →
    ∀ earlier later, actions = earlier ++ .notify :: later →
      0 < (start.after (earlier ++ [.notify])).begun later

/-- Whatever the capacity of the queue is and whatever happens in between, no notification of a
running worker is lost. -/
theorem heeds_notifications (start : Watch) (actions : List Action)
    (running : (start.after actions).running = true) : start.HeedsNotifications actions := by
  have pending : ∀ earlier later, actions = earlier ++ .notify :: later →
      (start.after (earlier ++ [.notify])).begun later = 0 →
      (start.after actions).Pending := by
    rintro earlier later rfl begunNone
    rw [after_append] at running begunNone ⊢
    exact (pending_notify (running_after running)).after begunNone
  constructor
  case accepted =>
    rintro earlier later rfl
    rw [after_append] at running
    rw [tryNotify_of_running (running_after running)]
  case pending => exact pending
  case attempted =>
    intro settled earlier later split
    apply Nat.pos_of_ne_zero
    intro begunNone
    exact settled (pending earlier later split begunNone)

/-- A watcher with a queue of no capacity, over a file that cannot be read. -/
def narrow : Watch :=
  spawn ⟨.empty, none⟩ { debounce := 5, pollInterval := none, capacity := 0 } 0

/-- Two notifications, of which the second finds the queue full, and two rounds. -/
def notifiedTwice : List Action :=
  let missing := Source.ofUnreadableFile "rules.json" "no such file"
  [.notify, .notify] ++ List.replicate 3 (.work true 0 0 missing) ++
    List.replicate 5 (.work false 9 9 missing)

theorem heeds_notifications_notifiedTwice :
    (narrow.after (notifiedTwice.take 1)).queue = (narrow.after (notifiedTwice.take 2)).queue ∧
      (narrow.after notifiedTwice).queue = 0 ∧
      (narrow.after notifiedTwice).deadline = none ∧
      (narrow.after notifiedTwice).counters = { rawEvents := 2, failures := 1 } ∧
      (narrow.after notifiedTwice).running = true ∧
      narrow.HeedsNotifications notifiedTwice :=
  ⟨rfl, rfl, rfl, rfl, rfl, heeds_notifications narrow notifiedTwice rfl⟩

end WorkflowGuard.Watch
