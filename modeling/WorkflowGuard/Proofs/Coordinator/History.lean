import WorkflowGuard.Proofs.Coordinator.Calls
import WorkflowGuard.Proofs.Registry.Lookup

/-!
# Runs of a coordinator

A run carries out calls one after another. Its journal lists the calls with what they returned.
This file shows that the journal accounts for the live registry: its number is one more than the
number of installations, and its content is what the last of them brought.

A call either installs what it offers under the next number or leaves the coordinator alone.
The numbers then follow from one invariant, that the next number succeeds the live one.
-/

namespace WorkflowGuard

/-- Two registries decide every move and every group rule of every ticket alike. -/
structure Registry.SameAnswers (left right : Registry) : Prop where
  allows : ∀ ticket target principal now,
    left.allows ticket target principal now = right.allows ticket target principal now
  validNextStates : ∀ ticket principal now,
    left.validNextStates ticket principal now = right.validNextStates ticket principal now
  matchingRules : ∀ ticket principal group now,
    left.matchingRules ticket principal group now = right.matchingRules ticket principal group now
  combinedMultiplier : ∀ ticket principal group now,
    left.combinedMultiplier ticket principal group now =
      right.combinedMultiplier ticket principal group now

/-- Registries of one document answer alike, whatever their fingerprints and numbers are. -/
theorem Registry.sameAnswers_build (document : Document) (left right : Fingerprint)
    (leftGeneration rightGeneration : Nat) :
    ((build document left).withGeneration leftGeneration).SameAnswers
      ((build document right).withGeneration rightGeneration) := by
  constructor
  · intro ticket target principal now
    rfl
  · intro ticket principal now
    rfl
  · intro ticket principal group now
    rfl
  · intro ticket principal group now
    rfl

namespace Coordinator

def next (coordinator : Coordinator) (call : Call) : Coordinator :=
  (coordinator.perform call).value.1

def outcome (coordinator : Coordinator) (call : Call) : Outcome :=
  (coordinator.perform call).value.2

/-- The coordinator after calls that are carried out one after another. -/
def after (coordinator : Coordinator) (calls : List Call) : Coordinator :=
  calls.foldl next coordinator

/-- The calls of a run with what they returned, in order. -/
def journal (coordinator : Coordinator) : List Call → List (Call × Outcome)
  | [] => []
  | call :: later => (call, coordinator.outcome call) :: (coordinator.next call).journal later

def installations (coordinator : Coordinator) (calls : List Call) : Nat :=
  (coordinator.journal calls).countP fun (_, outcome) => outcome.installs

/-- The last call of a run that installed a registry. -/
def lastInstalled? (coordinator : Coordinator) (calls : List Call) : Option Call :=
  ((coordinator.journal calls).findRev? fun (_, outcome) => outcome.installs).map Prod.fst

theorem after_cons (coordinator : Coordinator) (call : Call) (later : List Call) :
    coordinator.after (call :: later) = (coordinator.next call).after later := rfl

theorem after_append (coordinator : Coordinator) (earlier later : List Call) :
    coordinator.after (earlier ++ later) = (coordinator.after earlier).after later :=
  List.foldl_append

/-- A call installs what it offers under the next number, or leaves the coordinator alone. -/
theorem next_cases (coordinator : Coordinator) (call : Call) :
    (∃ registry, call.offer = .ok registry ∧
      coordinator.next call =
        ⟨registry.withGeneration coordinator.nextGeneration, coordinator.nextGeneration + 1⟩ ∧
      coordinator.outcome call =
        .ok (.installed coordinator.nextGeneration registry.fingerprint registry.stats)) ∨
    (coordinator.next call = coordinator ∧
      (coordinator.outcome call = .ok (.unchanged coordinator.current.fingerprint) ∨
        ∃ error, coordinator.outcome call = .error error)) := by
  rw [next, outcome]
  rcases coordinator.perform_cases call with
    ⟨_, performed⟩ | ⟨_, registry, offered, performed⟩ | ⟨_, error, _, performed⟩
  · right
    rw [performed]
    exact ⟨rfl, Or.inl rfl⟩
  · left
    rw [performed]
    exact ⟨registry, offered, rfl, rfl⟩
  · right
    rw [performed]
    exact ⟨rfl, Or.inr ⟨_, rfl⟩⟩

/-- A call that installs makes its own offer live. -/
theorem next_of_installs {coordinator : Coordinator} {call : Call}
    (installs : (coordinator.outcome call).installs = true) :
    ∃ registry, call.offer = .ok registry ∧
      coordinator.next call =
        ⟨registry.withGeneration coordinator.nextGeneration, coordinator.nextGeneration + 1⟩ ∧
      coordinator.outcome call =
        .ok (.installed coordinator.nextGeneration registry.fingerprint registry.stats) := by
  rcases coordinator.next_cases call with installed | ⟨_, unchanged | ⟨error, failed⟩⟩
  · exact installed
  · rw [unchanged] at installs
    cases installs
  · rw [failed] at installs
    cases installs

theorem next_of_not_installs {coordinator : Coordinator} {call : Call}
    (leaves : (coordinator.outcome call).installs = false) :
    coordinator.next call = coordinator := by
  rcases coordinator.next_cases call with ⟨registry, _, _, installed⟩ | ⟨same, _⟩
  · rw [installed] at leaves
    cases leaves
  · exact same

theorem fingerprint_of_unchanged {coordinator : Coordinator} {call : Call}
    {fingerprint : Fingerprint}
    (unchanged : coordinator.outcome call = .ok (.unchanged fingerprint)) :
    fingerprint = (coordinator.next call).current.fingerprint := by
  rcases coordinator.next_cases call with
    ⟨registry, _, _, installed⟩ | ⟨same, skipped | ⟨error, failed⟩⟩
  · rw [installed] at unchanged
    cases unchanged
  · rw [skipped] at unchanged
    cases unchanged
    rw [same]
  · rw [failed] at unchanged
    cases unchanged

section Journal

variable (coordinator : Coordinator)

theorem installations_cons (call : Call) (later : List Call) :
    coordinator.installations (call :: later) =
      (coordinator.next call).installations later +
        if (coordinator.outcome call).installs then 1 else 0 := by
  simp only [installations]
  rw [journal, List.countP_cons]

/-- The first call is the last to install if no later one does. -/
theorem lastInstalled?_cons (call : Call) (later : List Call) :
    coordinator.lastInstalled? (call :: later) =
      ((coordinator.next call).lastInstalled? later).or
        (if (coordinator.outcome call).installs then some call else none) := by
  simp only [lastInstalled?]
  rw [journal, List.findRev?]
  cases ((coordinator.next call).journal later).findRev? fun (_, outcome) => outcome.installs with
  | some entry => rfl
  | none =>
      cases (coordinator.outcome call).installs with
      | true => simp
      | false => simp

end Journal

/-- The next number succeeds the live one. -/
def Numbered (coordinator : Coordinator) : Prop :=
  coordinator.nextGeneration = coordinator.generation + 1

theorem numbered_new (initial : Registry) : (new initial).Numbered := rfl

/-- Every call keeps the two numbers together. -/
theorem Numbered.next {coordinator : Coordinator} (numbered : coordinator.Numbered)
    (call : Call) : (coordinator.next call).Numbered := by
  rcases coordinator.next_cases call with ⟨registry, _, installed, _⟩ | ⟨same, _⟩
  · rw [installed]
    rfl
  · rw [same]
    exact numbered

theorem Numbered.after {coordinator : Coordinator} (numbered : coordinator.Numbered)
    (calls : List Call) : (coordinator.after calls).Numbered := by
  induction calls generalizing coordinator with
  | nil => exact numbered
  | cons call later ih => exact ih (numbered.next call)

/-- The live number grows by one with an installation, and not otherwise. -/
theorem Numbered.generation_next {coordinator : Coordinator} (numbered : coordinator.Numbered)
    (call : Call) :
    (coordinator.next call).generation =
      coordinator.generation + if (coordinator.outcome call).installs then 1 else 0 := by
  cases installs : (coordinator.outcome call).installs with
  | true =>
      rcases next_of_installs installs with ⟨registry, _, installed, _⟩
      rw [installed]
      exact numbered
  | false =>
      rw [next_of_not_installs installs]
      rfl

/-- Over a run the live number grows by the installations in it. -/
theorem Numbered.generation_after {coordinator : Coordinator} (numbered : coordinator.Numbered)
    (calls : List Call) :
    (coordinator.after calls).generation =
      coordinator.generation + coordinator.installations calls := by
  induction calls generalizing coordinator with
  | nil => rfl
  | cons call later ih =>
      rw [after_cons, ih (numbered.next call), numbered.generation_next,
        installations_cons]
      omega

theorem Numbered.generation_le_after {coordinator : Coordinator}
    (numbered : coordinator.Numbered) (calls : List Call) :
    coordinator.generation ≤ (coordinator.after calls).generation := by
  rw [numbered.generation_after]
  exact Nat.le_add_right _ _

theorem after_of_lastInstalled?_none {coordinator : Coordinator} {calls : List Call}
    (missing : coordinator.lastInstalled? calls = none) :
    coordinator.after calls = coordinator := by
  induction calls generalizing coordinator with
  | nil => rfl
  | cons call later ih =>
      rw [lastInstalled?_cons, Option.or_eq_none_iff] at missing
      have leaves : (coordinator.outcome call).installs = false := by simpa using missing.2
      rw [after_cons, ih missing.1, next_of_not_installs leaves]

/-- What is live after a run is what the last installation brought, under the live number. -/
theorem current_after_of_lastInstalled? {coordinator : Coordinator} {calls : List Call}
    {source : Call} (last : coordinator.lastInstalled? calls = some source) :
    ∃ registry, source.offer = .ok registry ∧
      (coordinator.after calls).current =
        registry.withGeneration (coordinator.after calls).generation := by
  induction calls generalizing coordinator with
  | nil => cases last
  | cons call later ih =>
      rw [lastInstalled?_cons] at last
      cases lastLater : (coordinator.next call).lastInstalled? later with
      | some other =>
          rw [lastLater] at last
          cases last
          exact ih lastLater
      | none =>
          -- Nothing was installed after this call, so it is the one that counts.
          rw [lastLater, Option.none_or] at last
          split at last
          · rename_i installs
            cases last
            rcases next_of_installs installs with ⟨registry, offered, installed, _⟩
            refine ⟨registry, offered, ?_⟩
            rw [after_cons, after_of_lastInstalled?_none lastLater, installed]
            rfl
          · cases last

def run (initial : Registry) (calls : List Call) : Coordinator :=
  (new initial).after calls

theorem numbered_run (initial : Registry) (calls : List Call) : (run initial calls).Numbered :=
  (numbered_new initial).after calls

theorem run_concat (initial : Registry) (earlier : List Call) (call : Call) :
    run initial (earlier ++ [call]) = (run initial earlier).next call :=
  after_append (new initial) earlier [call]

theorem generation_run (initial : Registry) (calls : List Call) :
    (run initial calls).generation = 1 + (new initial).installations calls :=
  (numbered_new initial).generation_after calls

theorem generation_run_le_append (initial : Registry) (earlier later : List Call) :
    (run initial earlier).generation ≤ (run initial (earlier ++ later)).generation := by
  have atMost := (numbered_run initial earlier).generation_le_after later
  simp only [run] at atMost ⊢
  rw [after_append]
  exact atMost

/-- What holds right after a call that follows earlier ones. -/
structure Accounted (initial : Registry) (earlier : List Call) (call : Call) : Prop where
  /-- The live number counts the installations so far. -/
  generation : (run initial (earlier ++ [call])).generation =
    1 + (new initial).installations (earlier ++ [call])
  /-- The call makes live what it offers, unless it brings the bytes that are live already. -/
  installs_iff : ((run initial earlier).outcome call).installs = true ↔
    ¬call.Skips (run initial earlier) ∧ ∃ registry, call.offer = .ok registry
  /-- It is refused just for a fault of the document that it brings. -/
  refused_iff : ∀ error, (run initial earlier).outcome call = .error error ↔
    ¬call.Skips (run initial earlier) ∧ ∃ fault, call.offer = .error fault ∧ error = .document fault
  /-- What is reported as installed is what is live. -/
  reported : ∀ generation fingerprint stats,
    (run initial earlier).outcome call = .ok (.installed generation fingerprint stats) →
      generation = (run initial (earlier ++ [call])).generation ∧
      fingerprint = (run initial (earlier ++ [call])).current.fingerprint ∧
      stats = (run initial (earlier ++ [call])).current.stats
  /-- An installation gets a number above all that were live before. -/
  greater : ((run initial earlier).outcome call).installs = true →
    ∀ prior, prior <+: earlier →
      (run initial prior).generation < (run initial (earlier ++ [call])).generation
  /-- A call that installs nothing changes nothing, the next number included. -/
  kept : ((run initial earlier).outcome call).installs = false →
    run initial (earlier ++ [call]) = run initial earlier
  /-- What is reported as unchanged is what is live. -/
  unchanged : ∀ fingerprint,
    (run initial earlier).outcome call = .ok (.unchanged fingerprint) →
      fingerprint = (run initial (earlier ++ [call])).current.fingerprint
  /-- The last installation decides what is live; before the first it is the initial registry. -/
  serving : match (new initial).lastInstalled? (earlier ++ [call]) with
    | some source => ∃ registry, source.offer = .ok registry ∧
        (run initial (earlier ++ [call])).current =
          registry.withGeneration (run initial (earlier ++ [call])).generation
    | none => (run initial (earlier ++ [call])).current = initial.withGeneration 1
  /-- Two runs that installed one document last answer alike, whatever went before. -/
  answers : ∀ document otherInitial others source other left right,
    (new initial).lastInstalled? (earlier ++ [call]) = some source →
    (new otherInitial).lastInstalled? others = some other →
    source.offer = .ok (Registry.build document left) →
    other.offer = .ok (Registry.build document right) →
      (run initial (earlier ++ [call])).current.SameAnswers (run otherInitial others).current

/-- Whatever registry a coordinator starts with and whatever calls have been made on it, every
further call leaves the live registry accounted for. -/
theorem every_call_accounted (initial : Registry) (earlier : List Call) (call : Call) :
    Accounted initial earlier call := by
  have last := run_concat initial earlier call
  constructor
  case generation => exact generation_run initial (earlier ++ [call])
  case installs_iff => exact (run initial earlier).installs_perform_iff call
  case refused_iff =>
    intro error
    exact (run initial earlier).perform_eq_error_iff call
  case reported =>
    intro generation fingerprint stats reported
    have installs : ((run initial earlier).outcome call).installs = true := by
      rw [reported]
      rfl
    rcases next_of_installs installs with ⟨registry, _, installed, returned⟩
    rw [returned] at reported
    cases reported
    rw [last, installed]
    exact ⟨rfl, rfl, rfl⟩
  case greater =>
    rintro installs prior ⟨rest, rfl⟩
    have counted := (numbered_run initial (prior ++ rest)).generation_next call
    have atMost := generation_run_le_append initial prior rest
    rw [if_pos installs] at counted
    rw [last, counted]
    exact Nat.lt_succ_of_le atMost
  case kept =>
    intro leaves
    rw [last, next_of_not_installs leaves]
  case unchanged =>
    intro fingerprint unchanged
    rw [last]
    exact fingerprint_of_unchanged unchanged
  case serving =>
    split
    · rename_i source found
      exact current_after_of_lastInstalled? found
    · rename_i missing
      rw [run]
      rw [after_of_lastInstalled?_none missing]
      rfl
  case answers =>
    intro document otherInitial others source other left right found otherFound offered otherOffered
    rcases current_after_of_lastInstalled? found with ⟨registry, brought, live⟩
    rcases current_after_of_lastInstalled? otherFound with ⟨otherRegistry, otherBrought, otherLive⟩
    rw [offered] at brought
    rw [otherOffered] at otherBrought
    cases brought
    cases otherBrought
    simp only [run]
    rw [live, otherLive]
    exact Registry.sameAnswers_build document left right _ _

end Coordinator

end WorkflowGuard
