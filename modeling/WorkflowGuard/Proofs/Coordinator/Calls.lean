import WorkflowGuard.Coordinator

/-!
# Calls on a coordinator

The live registry changes only through four operations. This file makes them data, so that runs
of a coordinator can be spoken of, and says once what each of them does.

Three operations first turn their argument into a registry or a fault, whatever is live at the
time; the fourth is given a registry. What is made of this offer is the same for all of them.
Only the operation that skips known bytes looks at the live registry before.
-/

namespace WorkflowGuard.Coordinator

/-- An operation on a coordinator. -/
inductive Call where
  | reload (document : Document)
  | reloadBytes (bytes : Bytes)
  | reloadBytesIfChanged (bytes : Bytes)
  | install (registry : Registry)

abbrev Outcome := Except EngineError ReloadOutcome

/-- The call returned that a new registry is live. -/
def Outcome.installs : Outcome → Bool
  | .ok outcome => outcome.isInstalled
  | .error _ => false

def perform (coordinator : Coordinator) : Call → Step
  | .reload document => coordinator.reload document
  | .reloadBytes bytes => coordinator.reloadBytes bytes
  | .reloadBytesIfChanged bytes => coordinator.reloadBytesIfChanged bytes
  | .install registry =>
      (fun (next, outcome) => (next, .ok outcome)) <$> coordinator.install registry

/-- The registry that a call asks to make live, or the fault of its document. -/
def Call.offer : Call → Except DocumentError Registry
  | .reload document =>
      document.validate.value.map fun _ =>
        Registry.build document (Fingerprint.ofBytes document.canonicalBytes)
  | .reloadBytes bytes | .reloadBytesIfChanged bytes =>
      (Document.load bytes).value.map fun document =>
        Registry.build document (Fingerprint.ofBytes bytes)
  | .install registry => .ok registry

/-- The call brings the bytes that are live, and need not be carried out. -/
def Call.Skips (coordinator : Coordinator) : Call → Prop
  | .reloadBytesIfChanged bytes =>
      coordinator.current.fingerprint = Fingerprint.ofBytes bytes
  | _ => False

/-- What becomes of an offer: a registry is made live under the next number, a fault changes
nothing. -/
def adopt (coordinator : Coordinator) : Except DocumentError Registry → Coordinator × Outcome
  | .ok registry =>
      (⟨registry.withGeneration coordinator.nextGeneration, coordinator.nextGeneration + 1⟩,
        .ok (.installed coordinator.nextGeneration registry.fingerprint registry.stats))
  | .error error => (coordinator, .error (.document error))

theorem value_loadAs (coordinator : Coordinator) (bytes : Bytes) (fingerprint : Fingerprint) :
    (coordinator.loadAs bytes fingerprint).value =
      coordinator.adopt ((Document.load bytes).value.map fun document =>
        Registry.build document fingerprint) := by
  rw [loadAs]
  rw [Logged.value_bind]
  cases outcome : (Document.load bytes).value with
  | error error => rfl
  | ok document => rfl

theorem value_reload (coordinator : Coordinator) (document : Document) :
    (coordinator.reload document).value =
      coordinator.adopt (document.validate.value.map fun _ =>
        Registry.build document (Fingerprint.ofBytes document.canonicalBytes)) := by
  rw [reload]
  rw [Logged.value_bind]
  cases outcome : document.validate.value with
  | error error => rfl
  | ok checked => rfl

theorem value_perform_of_skips {coordinator : Coordinator} {call : Call}
    (skips : call.Skips coordinator) :
    (coordinator.perform call).value =
      (coordinator, .ok (.unchanged coordinator.current.fingerprint)) := by
  cases call with
  | reloadBytesIfChanged bytes =>
      simp only [Call.Skips] at skips
      simp [perform, reloadBytesIfChanged, skips]
  | reload document => exact False.elim skips
  | reloadBytes bytes => exact False.elim skips
  | install registry => exact False.elim skips

/-- Every other call comes down to what becomes of its offer. -/
theorem value_perform_of_not_skips {coordinator : Coordinator} {call : Call}
    (carriedOut : ¬call.Skips coordinator) :
    (coordinator.perform call).value = coordinator.adopt call.offer := by
  cases call with
  | reload document => exact coordinator.value_reload document
  | reloadBytes bytes => exact coordinator.value_loadAs bytes (Fingerprint.ofBytes bytes)
  | reloadBytesIfChanged bytes =>
      simp only [Call.Skips] at carriedOut
      simp only [perform, reloadBytesIfChanged, if_neg carriedOut]
      exact coordinator.value_loadAs bytes (Fingerprint.ofBytes bytes)
  | install registry => rfl

/-- A call is skipped, or installs the registry it offers, or is refused for a fault. -/
theorem perform_cases (coordinator : Coordinator) (call : Call) :
    (call.Skips coordinator ∧ (coordinator.perform call).value =
      (coordinator, .ok (.unchanged coordinator.current.fingerprint))) ∨
    (¬call.Skips coordinator ∧ ∃ registry, call.offer = .ok registry ∧
      (coordinator.perform call).value = coordinator.adopt (.ok registry)) ∨
    (¬call.Skips coordinator ∧ ∃ fault, call.offer = .error fault ∧
      (coordinator.perform call).value = (coordinator, .error (.document fault))) := by
  rcases Classical.em (call.Skips coordinator) with skips | carriedOut
  · exact Or.inl ⟨skips, value_perform_of_skips skips⟩
  · right
    rw [value_perform_of_not_skips carriedOut]
    cases call.offer with
    | ok registry => exact Or.inl ⟨carriedOut, registry, rfl, rfl⟩
    | error fault => exact Or.inr ⟨carriedOut, fault, rfl, rfl⟩

/-- A call installs what it offers, unless it is skipped. -/
theorem installs_perform_iff (coordinator : Coordinator) (call : Call) :
    Outcome.installs (coordinator.perform call).value.2 = true ↔
      ¬call.Skips coordinator ∧ ∃ registry, call.offer = .ok registry := by
  rcases coordinator.perform_cases call with
    ⟨skips, performed⟩ | ⟨carriedOut, registry, offered, performed⟩ |
      ⟨carriedOut, fault, offered, performed⟩
  · rw [performed]
    exact iff_of_false Bool.false_ne_true fun carried => carried.1 skips
  · rw [performed]
    exact iff_of_true rfl ⟨carriedOut, registry, offered⟩
  · rw [performed, offered]
    exact iff_of_false Bool.false_ne_true fun ⟨_, _, offersRegistry⟩ => nomatch offersRegistry

/-- A call is refused for the fault that its document has, unless it is skipped. -/
theorem perform_eq_error_iff (coordinator : Coordinator) (call : Call) {error : EngineError} :
    (coordinator.perform call).value.2 = .error error ↔
      ¬call.Skips coordinator ∧ ∃ fault, call.offer = .error fault ∧ error = .document fault := by
  rcases coordinator.perform_cases call with
    ⟨skips, performed⟩ | ⟨carriedOut, registry, offered, performed⟩ |
      ⟨carriedOut, fault, offered, performed⟩
  · rw [performed]
    exact iff_of_false nofun fun carried => carried.1 skips
  · rw [performed, offered]
    exact iff_of_false nofun fun ⟨_, _, offersFault, _⟩ => nomatch offersFault
  · rw [performed, offered]
    constructor
    · rintro ⟨⟩
      exact ⟨carriedOut, fault, rfl, rfl⟩
    · rintro ⟨_, _, ⟨⟩, rfl⟩
      rfl

end WorkflowGuard.Coordinator
