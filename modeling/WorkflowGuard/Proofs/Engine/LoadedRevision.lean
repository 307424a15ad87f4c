import Mathlib
import WorkflowGuard.Proofs.Coordinator.SkipUnchanged
import WorkflowGuard.Proofs.Engine.Service

/-!
# The revision that is live

An engine remembers a revision of its source next to its live rules. While the source is
replaced and the engine is told to reload, in any order and with any bytes, the two stay
together: the live rules are those of the bytes which the source held at the remembered version.
They fall behind the source by the replacements since the last load that succeeded, and by
nothing else.

The delicate step is a reload that finds its bytes live already. It changes the remembered
revision and not the rules, so that the rules are then said to be of bytes which they were not
built from. The two are the same bytes, because no two byte strings of the run have the same
fingerprint.
-/

namespace WorkflowGuard.Service

/-- What a call returns; replacing the source returns nothing. -/
def outcome (service : Service) : Call → Option (Except EngineError ReloadOutcome)
  | .replace _ => none
  | .reloadConfiguration =>
      some (service.engine.reloadConfiguration service.source.toSource).value.2
  | .reloadIfChanged =>
      some (service.engine.reloadIfChanged service.source.toSource).value.2

/-- The call is a load that succeeds. -/
def Loads (service : Service) (call : Call) : Prop :=
  ∃ result, service.outcome call = some (.ok result)

/-- What a call can come to: the service afterwards, and what it returns. -/
inductive Effect (service : Service) :
    Call → Service → Option (Except EngineError ReloadOutcome) → Prop where
  | replaced (bytes : Bytes) :
      Effect service (.replace bytes)
        { service with source := service.source.replace bytes } none
  | known {call : Call} (reloads : ∀ bytes, call ≠ .replace bytes)
      (live : service.engine.registry.fingerprint = Fingerprint.ofBytes service.source.bytes) :
      Effect service call
        { service with
          engine := ⟨service.engine.coordinator, service.source.toSource.currentRevision⟩ }
        (some (.ok (.unchanged (Fingerprint.ofBytes service.source.bytes))))
  | installed {call : Call} {document : Document} (reloads : ∀ bytes, call ≠ .replace bytes)
      (accepted : (Document.load service.source.bytes).value = .ok document) :
      Effect service call
        (let registry := Registry.build document (Fingerprint.ofBytes service.source.bytes)
        let generation := service.engine.coordinator.nextGeneration
        { service with
          engine := ⟨⟨registry.withGeneration generation, generation + 1⟩,
            service.source.toSource.currentRevision⟩ })
        (some (.ok (.installed service.engine.coordinator.nextGeneration
          (Fingerprint.ofBytes service.source.bytes)
          (Registry.build document (Fingerprint.ofBytes service.source.bytes)).stats)))
  | rejected {call : Call} {error : DocumentError} (reloads : ∀ bytes, call ≠ .replace bytes)
      (refused : (Document.load service.source.bytes).value = .error error) :
      Effect service call service (some (.error (.document error)))

/-- Both ways of reloading have one of the three effects that bytes can have. -/
theorem effect_reload (service : Service) {call : Call} (reloads : ∀ bytes, call ≠ .replace bytes)
    {reload : Coordinator → Bytes → Coordinator.Step}
    (reloadsBytes : Coordinator.ReloadsBytes reload)
    (next : service.next call =
      { service with
        engine := (service.engine.reloadFrom reload
          service.source.toSource.currentRevision (.ok service.source.bytes)).value.1 })
    (outcome : service.outcome call =
      some (service.engine.reloadFrom reload
        service.source.toSource.currentRevision (.ok service.source.bytes)).value.2) :
    Effect service call (service.next call) (service.outcome call) := by
  rw [next, outcome]
  rcases service.engine.reloadFrom_cases reloadsBytes service.source.toSource.currentRevision
    service.source.bytes with
    ⟨live, result⟩ | ⟨document, accepted, result⟩ | ⟨error, refused, result⟩
  · rw [result]
    exact .known reloads live
  · rw [result]
    exact .installed reloads accepted
  · rw [result]
    exact .rejected reloads refused

theorem effect (service : Service) (call : Call) :
    Effect service call (service.next call) (service.outcome call) := by
  cases call with
  | replace bytes => exact .replaced bytes
  | reloadConfiguration =>
      exact service.effect_reload nofun Coordinator.reloadsBytes_reloadBytes rfl rfl
  | reloadIfChanged =>
      exact service.effect_reload nofun Coordinator.reloadsBytes_reloadBytesIfChanged rfl rfl

theorem after_cons (service : Service) (call : Call) (later : List Call) :
    service.after (call :: later) = (service.next call).after later := rfl

theorem after_append (service : Service) (earlier later : List Call) :
    service.after (earlier ++ later) = (service.after earlier).after later :=
  List.foldl_append

def Call.replaces : Call → Bool
  | .replace _ => true
  | .reloadConfiguration | .reloadIfChanged => false

/-- The byte strings of a run: what the source holds first, and what replaces it. -/
def contents (service : Service) (calls : List Call) : List Bytes :=
  service.source.bytes :: calls.flatMap fun
    | .replace bytes => [bytes]
    | .reloadConfiguration | .reloadIfChanged => []

/-- At some moment of the run the source held the bytes, and the version was its version. -/
def Held (start : Service) (calls : List Call) (version : Nat) (bytes : Bytes) : Prop :=
  ∃ earlier later, calls = earlier ++ later ∧ (start.after earlier).source = ⟨bytes, version⟩

section Source

variable {service start : Service} {calls : List Call} {version : Nat} {bytes : Bytes}

theorem source_next (service : Service) (call : Call) :
    (call.replaces = false ∧ (service.next call).source = service.source) ∨
      (call.replaces = true ∧
        ∃ bytes, call = .replace bytes ∧
          (service.next call).source = service.source.replace bytes) := by
  cases call with
  | replace bytes => exact .inr ⟨rfl, bytes, rfl, rfl⟩
  | reloadConfiguration | reloadIfChanged => exact .inl ⟨rfl, rfl⟩

/-- The version counts the replacements. -/
theorem version_after (service : Service) (calls : List Call) :
    (service.after calls).source.version =
      service.source.version + calls.countP Call.replaces := by
  induction calls generalizing service with
  | nil => rfl
  | cons call later ih =>
      rw [after_cons, ih]
      rcases service.source_next call with ⟨keeps, same⟩ | ⟨replaces, bytes, rfl, replaced⟩
      · rw [same, List.countP_cons_of_neg (by simp [keeps])]
      · rw [replaced, List.countP_cons_of_pos replaces]
        simp only [StaticSource.replace]
        omega

/-- A source of the same version is the same source. -/
theorem source_after_of_version (service : Service) (calls : List Call)
    (sameVersion : (service.after calls).source.version = service.source.version) :
    (service.after calls).source = service.source := by
  rw [version_after] at sameVersion
  have replacesNone : calls.countP Call.replaces = 0 := by omega
  rw [List.countP_eq_zero] at replacesNone
  clear sameVersion
  induction calls generalizing service with
  | nil => rfl
  | cons call later ih =>
      have kept := replacesNone call List.mem_cons_self
      rcases service.source_next call with ⟨keeps, same⟩ | ⟨replaces, _⟩
      · rw [after_cons, ih (service.next call) fun other member =>
          replacesNone other (List.mem_cons_of_mem call member), same]
      · exact absurd replaces kept

/-- A version stands for the same bytes throughout a run. -/
theorem Held.unique {left right : Bytes} (heldLeft : start.Held calls version left)
    (heldRight : start.Held calls version right) : left = right := by
  rcases heldLeft with ⟨beforeLeft, afterLeft, splitLeft, sourceLeft⟩
  rcases heldRight with ⟨beforeRight, afterRight, splitRight, sourceRight⟩
  rw [splitLeft] at splitRight
  rcases List.append_eq_append_iff.mp splitRight with
    ⟨between, rfl, _⟩ | ⟨between, rfl, _⟩
  · rw [after_append] at sourceRight
    have same := (start.after beforeLeft).source_after_of_version between (by
      rw [sourceRight, sourceLeft])
    rw [sourceRight, sourceLeft] at same
    exact (congrArg StaticSource.bytes same).symm
  · rw [after_append] at sourceLeft
    have same := (start.after beforeRight).source_after_of_version between (by
      rw [sourceRight, sourceLeft])
    rw [sourceRight, sourceLeft] at same
    exact congrArg StaticSource.bytes same

theorem Held.append (held : start.Held calls version bytes) (later : List Call) :
    start.Held (calls ++ later) version bytes := by
  rcases held with ⟨earlier, rest, rfl, source⟩
  exact ⟨earlier, rest ++ later, List.append_assoc earlier rest later, source⟩

theorem held_present (start : Service) (calls : List Call) :
    start.Held calls (start.after calls).source.version (start.after calls).source.bytes :=
  ⟨calls, [], (List.append_nil calls).symm, rfl⟩

theorem bytes_after_mem_contents (service : Service) (calls : List Call) :
    (service.after calls).source.bytes ∈ service.contents calls := by
  induction calls generalizing service with
  | nil => exact List.mem_cons_self
  | cons call later ih =>
      have member := ih (service.next call)
      cases call with
      | replace bytes => exact List.mem_cons_of_mem _ member
      | reloadConfiguration | reloadIfChanged => exact member

theorem contents_subset_append (service : Service) (earlier later : List Call) :
    service.contents earlier ⊆ service.contents (earlier ++ later) := by
  rw [contents, contents, List.flatMap_append, ← List.cons_append]
  exact List.subset_append_left _ _

theorem Held.mem_contents (held : start.Held calls version bytes) :
    bytes ∈ start.contents calls := by
  rcases held with ⟨earlier, later, rfl, source⟩
  have member := start.bytes_after_mem_contents earlier
  rw [source] at member
  exact start.contents_subset_append earlier later member

end Source

theorem after_concat (service : Service) (calls : List Call) (call : Call) :
    service.after (calls ++ [call]) = (service.after calls).next call :=
  List.foldl_concat _ _ _ _

/-- The engine remembers the version, and serves the bytes that the source held at it. -/
structure Remembered (start : Service) (calls : List Call) (version : Nat) (bytes : Bytes) :
    Prop where
  loadedRevision : (start.after calls).engine.loadedRevision = some (.version version)
  notLater : version ≤ (start.after calls).source.version
  held : start.Held calls version bytes
  serves : (start.after calls).engine.coordinator.Serves bytes

section Remembered

variable {start : Service} {calls : List Call} {version : Nat} {bytes : Bytes}

/-- At the start the engine remembers the version it was started on. -/
theorem remembered_of_start {source : StaticSource} {engine : Engine}
    (started : (Engine.start source.toSource).value = .ok engine) :
    Remembered ⟨engine, source⟩ [] source.version source.bytes := by
  rcases Engine.accepted_of_start started with ⟨document, accepted, rfl⟩
  exact ⟨rfl, Nat.le_refl _, held_present _ [], document, accepted, 2, rfl⟩

/-- A call that leaves the engine alone leaves true what it remembers. -/
theorem Remembered.kept (remembered : start.Remembered calls version bytes) {call : Call}
    {result : Service} (next : (start.after calls).next call = result)
    (engine : result.engine = (start.after calls).engine)
    (notOlder : (start.after calls).source.version ≤ result.source.version) :
    start.Remembered (calls ++ [call]) version bytes := by
  have last := start.after_concat calls call
  rw [next] at last
  constructor
  case loadedRevision => rw [last, engine, remembered.loadedRevision]
  case notLater =>
    rw [last]
    exact remembered.notLater.trans notOlder
  case held => exact remembered.held.append [call]
  case serves =>
    rw [last, engine]
    exact remembered.serves

theorem remembered_present {call : Call} {result : Service}
    (next : (start.after calls).next call = result)
    (loadedRevision : result.engine.loadedRevision =
      (start.after calls).source.toSource.currentRevision)
    (source : result.source = (start.after calls).source)
    (serves : result.engine.coordinator.Serves (start.after calls).source.bytes) :
    start.Remembered (calls ++ [call]) (start.after calls).source.version
      (start.after calls).source.bytes := by
  have last := start.after_concat calls call
  rw [next] at last
  constructor
  case loadedRevision =>
    rw [last, loadedRevision]
    rfl
  case notLater => rw [last, source]
  case held => exact (start.held_present calls).append [call]
  case serves =>
    rw [last]
    exact serves

/-- Bytes that the engine finds live are those it serves, since fingerprints differ otherwise. -/
theorem Remembered.bytes_of_live (remembered : start.Remembered calls version bytes)
    (collisionFree : Fingerprint.CollisionFree (start.contents calls))
    (live : (start.after calls).engine.registry.fingerprint =
      Fingerprint.ofBytes (start.after calls).source.bytes) :
    bytes = (start.after calls).source.bytes :=
  collisionFree _ remembered.held.mem_contents _ (start.bytes_after_mem_contents calls)
    (remembered.serves.fingerprint.symm.trans live)

/-- After a call the engine remembers what it did before, or the present version. -/
theorem Remembered.next (remembered : start.Remembered calls version bytes) (call : Call)
    (collisionFree : Fingerprint.CollisionFree (start.contents calls)) :
    ∃ version bytes, start.Remembered (calls ++ [call]) version bytes := by
  have effect := (start.after calls).effect call
  generalize next : (start.after calls).next call = result at effect
  generalize (start.after calls).outcome call = returned at effect
  cases effect with
  | replaced bytes => exact ⟨_, _, remembered.kept next rfl (Nat.le_succ _)⟩
  | rejected reloads refused => exact ⟨_, _, remembered.kept next rfl (Nat.le_refl _)⟩
  | installed reloads accepted =>
      exact ⟨_, _, remembered_present next rfl rfl ⟨_, accepted, _, rfl⟩⟩
  | known reloads live =>
      have serves : (start.after calls).engine.coordinator.Serves
          (start.after calls).source.bytes :=
        remembered.bytes_of_live collisionFree live ▸ remembered.serves
      exact ⟨_, _, remembered_present next rfl rfl serves⟩

/-- A reload succeeds just when the bytes of the source spell an accepted document. Bytes that are
not even read again, because they are live, have been accepted before. -/
theorem Remembered.loads_iff (remembered : start.Remembered calls version bytes)
    (collisionFree : Fingerprint.CollisionFree (start.contents calls)) {call : Call}
    (reloads : ∀ bytes, call ≠ .replace bytes) :
    (start.after calls).Loads call ↔
      ∃ document, (Document.load (start.after calls).source.bytes).value = .ok document := by
  have effect := (start.after calls).effect call
  rw [Loads]
  generalize (start.after calls).next call = result at effect
  generalize (start.after calls).outcome call = returned at effect
  cases effect with
  | replaced bytes => exact absurd rfl (reloads bytes)
  | known _ live =>
      -- Nobody reads the bytes now; they were accepted when they were loaded.
      rcases remembered.serves with ⟨document, accepted, _⟩
      rw [remembered.bytes_of_live collisionFree live] at accepted
      exact iff_of_true ⟨_, rfl⟩ ⟨document, accepted⟩
  | installed _ accepted => exact iff_of_true ⟨_, rfl⟩ ⟨_, accepted⟩
  | rejected _ refused =>
      rw [refused]
      simp

/-- Throughout a run, what the engine remembers is a version of the source. -/
theorem remembered_after {source : StaticSource} {engine : Engine}
    (started : (Engine.start source.toSource).value = .ok engine) (calls : List Call)
    (collisionFree : Fingerprint.CollisionFree (contents ⟨engine, source⟩ calls)) :
    ∃ version bytes, Remembered ⟨engine, source⟩ calls version bytes := by
  induction calls using List.reverseRecOn with
  | nil => exact ⟨_, _, remembered_of_start started⟩
  | append_singleton calls call ih =>
      have smaller : Fingerprint.CollisionFree (contents ⟨engine, source⟩ calls) :=
        collisionFree.subset (contents_subset_append _ calls [call])
      rcases ih smaller with ⟨version, bytes, remembered⟩
      exact remembered.next call smaller

end Remembered

/-- The earlier calls end with a load that succeeds, or are none, so that the load is the start
of the engine; no later call is such a load. -/
structure LastLoad (start : Service) (earlier later : List Call) : Prop where
  loaded : earlier = [] ∨
    ∃ before call, earlier = before ++ [call] ∧ (start.after before).Loads call
  noneLater : ∀ between call, between ++ [call] <+: later →
    ¬(start.after (earlier ++ between)).Loads call

section LastLoad

variable {service start : Service} {earlier later : List Call}

theorem loadedRevision_of_loads {call : Call} (loads : service.Loads call) :
    (service.next call).engine.loadedRevision =
      (service.next call).source.toSource.currentRevision := by
  rcases loads with ⟨result, returned⟩
  have effect := service.effect call
  rw [returned] at effect
  generalize service.next call = result at effect
  cases effect with
  | known | installed => rfl

theorem engine_of_not_loads {call : Call} (loadsNot : ¬service.Loads call) :
    (service.next call).engine = service.engine := by
  have effect := service.effect call
  rw [Loads] at loadsNot
  generalize service.outcome call = returned at effect loadsNot
  generalize service.next call = result at effect
  cases effect with
  | replaced | rejected => rfl
  | known | installed => exact absurd ⟨_, rfl⟩ loadsNot

theorem engine_after_of_not_loads
    (loadsNot : ∀ between call, between ++ [call] <+: later →
      ¬(service.after between).Loads call) :
    (service.after later).engine = service.engine := by
  induction later generalizing service with
  | nil => rfl
  | cons call later ih =>
      have first : ¬service.Loads call := loadsNot [] call (List.prefix_append [call] later)
      rw [after_cons, ih, engine_of_not_loads first]
      intro between other began
      exact loadsNot (call :: between) other (List.prefix_cons_inj call |>.mpr began)

/-- Every run has a last load, if only the start. -/
theorem exists_lastLoad (start : Service) (calls : List Call) :
    ∃ earlier later, calls = earlier ++ later ∧ start.LastLoad earlier later := by
  induction calls using List.reverseRecOn with
  | nil =>
      refine ⟨[], [], rfl, .inl rfl, ?_⟩
      intro between call began
      simp at began
  | append_singleton calls call ih =>
      by_cases loads : (start.after calls).Loads call
      · refine ⟨calls ++ [call], [], (List.append_nil _).symm,
          .inr ⟨calls, call, rfl, loads⟩, ?_⟩
        intro between other began
        simp at began
      · rcases ih with ⟨earlier, later, rfl, loaded, noneLater⟩
        refine ⟨earlier, later ++ [call], List.append_assoc _ _ _, loaded, ?_⟩
        intro between other began
        rcases List.prefix_concat_iff.mp began with all | before
        · obtain ⟨rfl, same⟩ := List.append_inj' all rfl
          cases same
          exact loads
        · exact noneLater between other before

/-- The remembered revision falls behind by the replacements since the last load. -/
theorem loadedRevision_of_lastLoad
    (started : start.engine.loadedRevision = start.source.toSource.currentRevision)
    (lastLoad : start.LastLoad earlier later) :
    (start.after (earlier ++ later)).engine.loadedRevision =
      some (.version (start.after earlier).source.version) := by
  have present : (start.after earlier).engine.loadedRevision =
      (start.after earlier).source.toSource.currentRevision := by
    rcases lastLoad.loaded with rfl | ⟨before, call, rfl, loads⟩
    · exact started
    · rw [after_concat]
      exact loadedRevision_of_loads loads
  rw [after_append, engine_after_of_not_loads, present]
  · rfl
  · intro between call began
    rw [← after_append]
    exact lastLoad.noneLater between call began

theorem countP_replaces_eq_zero_iff {calls : List Call} :
    calls.countP Call.replaces = 0 ↔ ∀ bytes, Call.replace bytes ∉ calls := by
  rw [List.countP_eq_zero]
  constructor
  · intro none bytes member
    exact none _ member rfl
  · intro none call member replaces
    cases call with
    | replace bytes => exact none bytes member
    | reloadConfiguration | reloadIfChanged => cases replaces

/-- The remembered revision is the present one just when nothing was replaced since the last load.
-/
theorem present_iff_of_lastLoad
    (started : start.engine.loadedRevision = start.source.toSource.currentRevision)
    (lastLoad : start.LastLoad earlier later) :
    (start.after (earlier ++ later)).source.toSource.revision =
        .ok (start.after (earlier ++ later)).engine.loadedRevision ↔
      ∀ bytes, Call.replace bytes ∉ later := by
  rw [loadedRevision_of_lastLoad started lastLoad, after_append, ← countP_replaces_eq_zero_iff]
  simp only [StaticSource.toSource, version_after, Except.ok.injEq, Option.some.injEq,
    Revision.version.injEq]
  omega

end LastLoad

/-- What the engine remembers of its source is true after the calls. -/
structure TracksSource (start : Service) (calls : List Call) : Prop where
  /-- The remembered revision is a version of the source, not later than the present one, and
  the live registry is the build of the document in the bytes that the source held at it. -/
  live : ∃ version bytes,
    (start.after calls).engine.loadedRevision = some (.version version) ∧
    version ≤ (start.after calls).source.version ∧
    start.Held calls version bytes ∧
    (∀ other, start.Held calls version other → other = bytes) ∧
    (start.after calls).engine.registry.fingerprint = Fingerprint.ofBytes bytes ∧
    ∃ document, (Document.load bytes).value = .ok document ∧
      ∃ generation, (start.after calls).engine.registry =
        (Registry.build document (Fingerprint.ofBytes bytes)).withGeneration generation
  lastLoad : ∃ earlier later, calls = earlier ++ later ∧ start.LastLoad earlier later
  /-- It is the present revision of the source just when nothing was replaced since the last
  load that succeeded. -/
  present_iff : ∀ earlier later, calls = earlier ++ later → start.LastLoad earlier later →
    ((start.after calls).source.toSource.revision =
        .ok (start.after calls).engine.loadedRevision ↔
      ∀ bytes, Call.replace bytes ∉ later)
  /-- A reload succeeds just when the present bytes of the source spell an accepted document. -/
  loads_iff : ∀ call, (∀ bytes, call ≠ .replace bytes) →
    ((start.after calls).Loads call ↔
      ∃ document, (Document.load (start.after calls).source.bytes).value = .ok document)
  /-- A call that fails changes neither the engine nor the source. -/
  failed : ∀ call error, (start.after calls).outcome call = some (.error error) →
    (start.after calls).next call = start.after calls

theorem next_of_failed {service : Service} {call : Call} {error : EngineError}
    (failed : service.outcome call = some (.error error)) : service.next call = service := by
  have effect := service.effect call
  rw [failed] at effect
  generalize service.next call = result at effect
  cases effect
  rfl

/-- Whatever is replaced and reloaded after an engine has started, its live rules are those of
the revision it remembers, if the byte strings of the run have distinct fingerprints. -/
theorem tracks_source {source : StaticSource} {engine : Engine}
    (started : (Engine.start source.toSource).value = .ok engine) (calls : List Call)
    (collisionFree : Fingerprint.CollisionFree (contents ⟨engine, source⟩ calls)) :
    TracksSource ⟨engine, source⟩ calls := by
  rcases remembered_after started calls collisionFree with ⟨version, bytes, remembered⟩
  constructor
  case live =>
    rcases remembered with ⟨loadedRevision, notLater, held, serves⟩
    exact ⟨version, bytes, loadedRevision, notLater, held,
      fun other heldOther => heldOther.unique held, serves.fingerprint, serves⟩
  case lastLoad => exact exists_lastLoad _ calls
  case present_iff =>
    rintro earlier later rfl lastLoad
    exact present_iff_of_lastLoad (remembered_of_start started).loadedRevision lastLoad
  case loads_iff =>
    intro call reloads
    exact remembered.loads_iff collisionFree reloads
  case failed =>
    intro call error failed
    exact next_of_failed failed

/-- The document without rules. -/
def ruleless : StaticSource :=
  .new (Document.canonicalBytes {})

def rulelessEngine : Engine :=
  ⟨⟨(Registry.build {} (Fingerprint.ofBytes ruleless.bytes)).withGeneration 2, 3⟩,
    some (.version 1)⟩

/-- An edit that cannot be read is noticed, taken back, and noticed again. -/
def breakAndRestore : List Call :=
  [.replace [], .reloadIfChanged, .replace ruleless.bytes, .reloadIfChanged]

/-- The broken edit is refused, and the restored bytes are loaded again. -/
theorem tracks_source_breakAndRestore :
    (Engine.start ruleless.toSource).value = .ok rulelessEngine ∧
      Fingerprint.CollisionFree (contents ⟨rulelessEngine, ruleless⟩ breakAndRestore) ∧
      TracksSource ⟨rulelessEngine, ruleless⟩ breakAndRestore ∧
      ¬(after ⟨rulelessEngine, ruleless⟩ (breakAndRestore.take 1)).Loads .reloadIfChanged ∧
      (after ⟨rulelessEngine, ruleless⟩ (breakAndRestore.take 3)).Loads .reloadIfChanged := by
  have accepted : (Document.load ruleless.bytes).value = .ok {} :=
    Document.value_load_eq_ok_iff.mpr ⟨Document.readsBack_default, rfl⟩
  have started : (Engine.start ruleless.toSource).value = .ok rulelessEngine :=
    Engine.value_start rfl accepted
  have different : Fingerprint.ofBytes ruleless.bytes ≠ Fingerprint.ofBytes [] := by
    decide +kernel
  have collisionFree :
      Fingerprint.CollisionFree (contents ⟨rulelessEngine, ruleless⟩ breakAndRestore) := by
    apply (Fingerprint.collisionFree_pair different).subset
    simp [contents, breakAndRestore]
  have tracks (count : Nat) :
      TracksSource ⟨rulelessEngine, ruleless⟩ (breakAndRestore.take count) := by
    apply tracks_source started
    apply collisionFree.subset
    have whole := contents_subset_append ⟨rulelessEngine, ruleless⟩ (breakAndRestore.take count)
      (breakAndRestore.drop count)
    rwa [List.take_append_drop] at whole
  refine ⟨started, collisionFree, tracks_source started breakAndRestore collisionFree, ?_, ?_⟩
  · intro loads
    rcases ((tracks 1).loads_iff .reloadIfChanged nofun).mp loads with ⟨document, read⟩
    cases read
  · exact ((tracks 3).loads_iff .reloadIfChanged nofun).mpr ⟨{}, accepted⟩

end WorkflowGuard.Service
