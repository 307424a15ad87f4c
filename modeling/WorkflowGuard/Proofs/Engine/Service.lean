import WorkflowGuard.Proofs.Engine.Decisions

/-!
# An engine on a configuration that is replaced

A service is an engine with the configuration in memory that it was started on. The
configuration is replaced, and the engine is told to reload it, in any order. Two revisions can
then differ: the present one, and the one that the engine loaded.

A reload of bytes comes to one of three things, whichever operation carries it out: the bytes
are live already, their document is installed, or they are rejected. In each case the service is
up to date afterwards. A revision that was read earlier is at most the present one, so it can
agree with the present one only if nothing has been replaced since.
-/

namespace WorkflowGuard

/-- The operation reloads bytes: it finds them live, or installs their document, or rejects
them. -/
def Coordinator.ReloadsBytes (reload : Coordinator → Bytes → Step) : Prop :=
  ∀ coordinator bytes,
    (coordinator.current.fingerprint = Fingerprint.ofBytes bytes ∧
      (reload coordinator bytes).value =
        (coordinator, .ok (.unchanged (Fingerprint.ofBytes bytes)))) ∨
    (∃ document, (Document.load bytes).value = .ok document ∧
      (reload coordinator bytes).value =
        coordinator.adopt (.ok (Registry.build document (Fingerprint.ofBytes bytes)))) ∨
    (∃ error, (Document.load bytes).value = .error error ∧
      (reload coordinator bytes).value = coordinator.adopt (.error error))

namespace Coordinator

theorem reloadsBytes_reloadBytes : ReloadsBytes reloadBytes := by
  intro coordinator bytes
  right
  rw [reloadBytes, value_loadAs]
  cases (Document.load bytes).value with
  | ok document => exact .inl ⟨document, rfl, rfl⟩
  | error error => exact .inr ⟨error, rfl, rfl⟩

theorem reloadsBytes_reloadBytesIfChanged : ReloadsBytes reloadBytesIfChanged := by
  intro coordinator bytes
  rcases Classical.em (coordinator.current.fingerprint = Fingerprint.ofBytes bytes) with
    live | changed
  · left
    simp only [reloadBytesIfChanged, if_pos live]
    exact ⟨live, rfl⟩
  · simp only [reloadBytesIfChanged, if_neg changed]
    exact reloadsBytes_reloadBytes coordinator bytes

end Coordinator

namespace Engine

variable {reload : Coordinator → Bytes → Coordinator.Step}

theorem reloadFrom_cases (reloads : Coordinator.ReloadsBytes reload) (engine : Engine)
    (revision : Option Revision) (bytes : Bytes) :
    (engine.registry.fingerprint = Fingerprint.ofBytes bytes ∧
      (engine.reloadFrom reload revision (.ok bytes)).value =
        (⟨engine.coordinator, revision⟩, .ok (.unchanged (Fingerprint.ofBytes bytes)))) ∨
    (∃ document, (Document.load bytes).value = .ok document ∧
      (engine.reloadFrom reload revision (.ok bytes)).value =
        let registry := Registry.build document (Fingerprint.ofBytes bytes)
        let generation := engine.coordinator.nextGeneration
        (⟨⟨registry.withGeneration generation, generation + 1⟩, revision⟩,
          .ok (.installed generation (Fingerprint.ofBytes bytes) registry.stats))) ∨
    (∃ error, (Document.load bytes).value = .error error ∧
      (engine.reloadFrom reload revision (.ok bytes)).value =
        (engine, .error (.document error))) := by
  simp only [reloadFrom, Logged.value_bind, Logged.value_pure]
  rcases reloads engine.coordinator bytes with
    ⟨live, result⟩ | ⟨document, accepted, result⟩ | ⟨error, rejected, result⟩
  · exact .inl ⟨live, by rw [result]⟩
  · exact .inr (.inl ⟨document, accepted, by rw [result]; rfl⟩)
  · exact .inr (.inr ⟨error, rejected, by rw [result]; rfl⟩)

/-- After a reload the bytes are live, unless they are rejected. -/
theorem live_or_rejected (reloads : Coordinator.ReloadsBytes reload) (engine : Engine)
    (revision : Option Revision) (bytes : Bytes) :
    (engine.reloadFrom reload revision (.ok bytes)).value.1.registry.fingerprint =
        Fingerprint.ofBytes bytes ∨
      ∃ error, (Document.load bytes).value = .error error := by
  rcases engine.reloadFrom_cases reloads revision bytes with
    ⟨live, result⟩ | ⟨document, accepted, result⟩ | ⟨error, rejected, result⟩
  · left
    rw [result]
    exact live
  · left
    rw [result]
    rfl
  · exact .inr ⟨error, rejected⟩

/-- A reload takes over the revision that was read, or leaves the engine as it was. -/
theorem loadedRevision_reloadFrom (reloads : Coordinator.ReloadsBytes reload) (engine : Engine)
    (revision : Option Revision) (bytes : Bytes) :
    (engine.reloadFrom reload revision (.ok bytes)).value.1.loadedRevision = revision ∨
      (engine.reloadFrom reload revision (.ok bytes)).value.1 = engine := by
  rcases engine.reloadFrom_cases reloads revision bytes with
    ⟨live, result⟩ | ⟨document, accepted, result⟩ | ⟨error, rejected, result⟩
  · left
    rw [result]
  · left
    rw [result]
  · right
    rw [result]

/-- An engine that started serves the bytes of its source. -/
theorem accepted_of_start {source : StaticSource} {engine : Engine}
    (started : (start source.toSource).value = .ok engine) :
    ∃ document, (Document.load source.bytes).value = .ok document ∧
      engine =
        ⟨⟨(Registry.build document (Fingerprint.ofBytes source.bytes)).withGeneration 2, 3⟩,
          source.toSource.currentRevision⟩ := by
  cases accepted : (Document.load source.bytes).value with
  | error error =>
      simp only [start, StaticSource.toSource, Logged.value_bind, Coordinator.reloadBytes,
        Coordinator.value_loadAs, accepted] at started
      cases started
  | ok document =>
      rw [value_start rfl accepted] at started
      cases started
      exact ⟨document, rfl, rfl⟩

end Engine

namespace StaticSource

/-- The revision was read from the source, now or before. -/
def Showed (source : StaticSource) (revision : Option Revision) : Prop :=
  ∃ version ≤ source.version, revision = some (.version version)

theorem showed_currentRevision (source : StaticSource) :
    source.Showed source.toSource.currentRevision :=
  ⟨source.version, Nat.le_refl _, rfl⟩

variable {source : StaticSource} {revision : Option Revision}

theorem Showed.replace (showed : source.Showed revision) (bytes : Bytes) :
    (source.replace bytes).Showed revision := by
  rcases showed with ⟨version, atMost, rfl⟩
  exact ⟨version, Nat.le_succ_of_le atMost, rfl⟩

/-- A replacement shows in the revision, whatever earlier one is remembered. -/
theorem Showed.ne_replace (showed : source.Showed revision) (bytes : Bytes) :
    revision ≠ (source.replace bytes).toSource.currentRevision := by
  rcases showed with ⟨version, atMost, rfl⟩
  simp only [Source.currentRevision, toSource, StaticSource.replace, ne_eq,
    Option.some.injEq, Revision.version.injEq]
  omega

end StaticSource

structure Service where
  engine : Engine
  source : StaticSource

namespace Service

/-- What is done with the configuration and with the engine. -/
inductive Call where
  | replace (bytes : Bytes)
  | reloadConfiguration
  | reloadIfChanged

def next (service : Service) : Call → Service
  | .replace bytes => { service with source := service.source.replace bytes }
  | .reloadConfiguration =>
      { service with
        engine := (service.engine.reloadConfiguration service.source.toSource).value.1 }
  | .reloadIfChanged =>
      { service with
        engine := (service.engine.reloadIfChanged service.source.toSource).value.1 }

def after (service : Service) (calls : List Call) : Service :=
  calls.foldl next service

/-- The engine serves the bytes that the source holds, unless these are rejected. -/
def UpToDate (service : Service) : Prop :=
  service.engine.registry.fingerprint = Fingerprint.ofBytes service.source.bytes ∨
    ∃ error, (Document.load service.source.bytes).value = .error error

/-- The revision was read from the source, and if it is the present one, the service is up to
date. -/
structure Remembers (service : Service) (revision : Option Revision) : Prop where
  showed : service.source.Showed revision
  upToDate : revision = service.source.toSource.currentRevision → service.UpToDate

variable {service : Service} {revision : Option Revision}

/-- A call replaces the source, or reloads its present bytes at its present revision. -/
theorem next_cases (service : Service) (call : Call) :
    (∃ bytes, service.next call = { service with source := service.source.replace bytes }) ∨
    (∃ reload, Coordinator.ReloadsBytes reload ∧
      service.next call =
        { service with
          engine := (service.engine.reloadFrom reload
            service.source.toSource.currentRevision (.ok service.source.bytes)).value.1 }) := by
  cases call with
  | replace bytes => exact .inl ⟨bytes, rfl⟩
  | reloadConfiguration => exact .inr ⟨_, Coordinator.reloadsBytes_reloadBytes, rfl⟩
  | reloadIfChanged => exact .inr ⟨_, Coordinator.reloadsBytes_reloadBytesIfChanged, rfl⟩

/-- A revision that was read before a call does not hide what the call brings. -/
theorem remembers_next (showed : service.source.Showed revision) (call : Call) :
    (service.next call).Remembers revision := by
  rcases service.next_cases call with ⟨bytes, result⟩ | ⟨reload, reloads, result⟩
  · rw [result]
    refine ⟨showed.replace bytes, ?_⟩
    intro isPresent
    exact absurd isPresent (showed.ne_replace bytes)
  · rw [result]
    refine ⟨showed, ?_⟩
    intro isPresent
    exact service.engine.live_or_rejected reloads _ _

/-- What the engine loaded last is remembered so that no replacement is hidden. -/
def Loaded (service : Service) : Prop :=
  service.Remembers service.engine.loadedRevision

theorem loaded_of_start {source : StaticSource} {engine : Engine}
    (started : (Engine.start source.toSource).value = .ok engine) :
    Loaded ⟨engine, source⟩ := by
  rcases Engine.accepted_of_start started with ⟨document, _, rfl⟩
  exact ⟨source.showed_currentRevision, fun _ => .inl rfl⟩

/-- An engine that hides no replacement hides none after any call. -/
theorem Loaded.next (loaded : service.Loaded) (call : Call) : (service.next call).Loaded := by
  have kept := remembers_next loaded.showed call
  rcases service.next_cases call with ⟨bytes, result⟩ | ⟨reload, reloads, result⟩
  · rw [result] at kept ⊢
    exact kept
  · rcases service.engine.loadedRevision_reloadFrom reloads
      service.source.toSource.currentRevision service.source.bytes with read | unchanged
    · have present := remembers_next service.source.showed_currentRevision call
      rw [result] at present ⊢
      rw [Loaded, read]
      exact present
    · rw [result, unchanged] at kept ⊢
      exact kept

theorem Loaded.after (loaded : service.Loaded) (calls : List Call) :
    (service.after calls).Loaded := by
  induction calls generalizing service with
  | nil => exact loaded
  | cons call later ih => exact ih (loaded.next call)

end Service

end WorkflowGuard
