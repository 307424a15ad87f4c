import WorkflowGuard.Proofs.Document.Canonical
import WorkflowGuard.Proofs.Engine.Decisions
import WorkflowGuard.Proofs.Registry.Nulls

/-!
# Two ways to serve a document in memory

An engine can be started on a document, which is then served from its canonical text, or a
document can be installed in a running engine, which compiles it as it is. Both come to the same
for a document that can be written and whose doubles survive the number reader: all that the
text can change is that a bare `null` becomes a missing value, and no compiled rule depends on
that. A literal that is nested too deeply cannot be read again, and then only the second way is
open.
-/

namespace WorkflowGuard

namespace Registry

/-- The two registries give the same answers. Their generations may differ. -/
structure AgreesWith (left right : Registry) : Prop where
  fingerprint : left.fingerprint = right.fingerprint
  stats : left.stats = right.stats
  policies : left.policies = right.policies
  nextStates : ∀ domain source, left.nextStates domain source = right.nextStates domain source
  groupRules : ∀ domain group, left.groupRules domain group = right.groupRules domain group
  holds : ∀ key ticket principal now,
    (left.lookup key).holds ticket principal now = (right.lookup key).holds ticket principal now

theorem agreesWith_withGeneration (registry : Registry) (left right : Nat) :
    (registry.withGeneration left).AgreesWith (registry.withGeneration right) where
  fingerprint := rfl
  stats := rfl
  policies := rfl
  nextStates _ _ := rfl
  groupRules _ _ := rfl
  holds key _ _ _ := by cases key <;> rfl

end Registry

/-- A bare `null` in a condition does not change the registry. -/
theorem Document.build_withoutNulls (document : Document) (fingerprint : Fingerprint) :
    Registry.build document.withoutNulls fingerprint = Registry.build document fingerprint :=
  Registry.build_mapConditions Predicate.toOption_compile?_withoutNull document fingerprint

/-- Validation does not look into conditions. -/
theorem Document.validate_withoutNulls (document : Document) :
    document.withoutNulls.validate = document.validate := by
  rw [validate, validate, withoutNulls, findings_mapConditions]

namespace Engine

theorem value_reloadDocument (engine : Engine) {document : Document}
    (valid : document.validate.value = .ok ()) :
    (engine.reloadDocument document).value.1.registry =
      (Registry.build document (Fingerprint.ofBytes document.canonicalBytes)).withGeneration
        engine.coordinator.nextGeneration := by
  have installed : (engine.reloadDocument document).value.1.coordinator =
      (engine.coordinator.reload document).value.1 := rfl
  rw [registry, installed, Coordinator.value_reload, valid]
  rfl

/-- An engine that starts on a document serves what is read from its text. -/
theorem value_ofDocument {document served : Document} (valid : document.validate.value = .ok ())
    (accepted : (Document.load document.canonicalBytes).value = .ok served) :
    (ofDocument document).value =
      .ok ⟨⟨(Registry.build served (Fingerprint.ofBytes document.canonicalBytes)).withGeneration 2,
        3⟩, some (.version 1)⟩ := by
  rw [ofDocument, Logged.value_bind, valid]
  exact value_start rfl accepted

theorem value_ofDocument_of_refused {document : Document} {fault : DocumentError}
    (valid : document.validate.value = .ok ())
    (refused : (Document.load document.canonicalBytes).value = .error fault) :
    (ofDocument document).value = .error (.document fault) := by
  rw [ofDocument, Logged.value_bind, valid]
  simp only [start, StaticSource.toSource, StaticSource.new, Logged.value_bind,
    Coordinator.reloadBytes, Coordinator.value_loadAs, refused]
  rfl

/-- An engine started on a valid document agrees with every engine in which the document is
installed, if the document can be written and each of its doubles is read from its own text. -/
theorem ofDocument_agreesWith_reloadDocument {document : Document}
    (valid : document.validate.value = .ok ())
    (writable : document.Writable Document.literalDepth)
    (doubles : ∀ double ∈ document.doubles, ReadsBackAsWritten double) :
    ∃ engine, (ofDocument document).value = .ok engine ∧
      ∀ running : Engine,
        engine.registry.AgreesWith (running.reloadDocument document).value.1.registry := by
  have reads := Document.parse?_canonicalBytes writable doubles
  have accepted : (Document.load document.canonicalBytes).value = .ok document.withoutNulls := by
    rw [Document.load, reads]
    simp only [Logged.value_map, Document.validate_withoutNulls, valid]
    rfl
  refine ⟨_, value_ofDocument valid accepted, fun running => ?_⟩
  rw [value_reloadDocument running valid, ← document.build_withoutNulls]
  exact Registry.agreesWith_withGeneration _ _ _

/-- A rule that compares with a bare `null`, and one that compares with a double. -/
def comparesWithNull : Document where
  domains := ⟨[("it",
    { transitions :=
        [{ source := "open"
           target := "done"
           conditions :=
            [.ofField "f" "==" (.structured .null),
              .ofField "g" "<" (.number (Decimal.ofInt 2))] }] })], by decide⟩

theorem ofDocument_agreesWith_reloadDocument_comparesWithNull :
    comparesWithNull.validate.value = .ok () ∧
      comparesWithNull.Writable Document.literalDepth ∧
      (∀ double ∈ comparesWithNull.doubles, ReadsBackAsWritten double) ∧
      ∃ engine, (ofDocument comparesWithNull).value = .ok engine ∧
        ∀ running : Engine, engine.registry.AgreesWith
          (running.reloadDocument comparesWithNull).value.1.registry := by
  have valid : comparesWithNull.validate.value = .ok () := by decide
  have writable : comparesWithNull.Writable Document.literalDepth := by
    refine List.forall_mem_singleton.mpr ⟨List.forall_mem_singleton.mpr ?_, List.forall_mem_nil _⟩
    simp only [List.forall_mem_cons]
    refine ⟨?_, ?_, List.forall_mem_nil _⟩
    · rintro _ ⟨⟩
      exact .inl rfl
    · rintro _ ⟨⟩
      exact .inr trivial
  have doubles : ∀ double ∈ comparesWithNull.doubles, ReadsBackAsWritten double :=
    List.forall_mem_singleton.mpr Document.two_readsBackAsWritten
  exact ⟨valid, writable, doubles, ofDocument_agreesWith_reloadDocument valid writable doubles⟩

/-- An array around an array, and so on, of the given number of arrays. -/
def nestedArrays : Nat → Json.Value
  | 0 => .array []
  | depth + 1 => .array [nestedArrays depth]

/-- A condition whose literal is nested one level too deep for its place. -/
def tooDeep : Document where
  domains := ⟨[("it",
    { workflow := ⟨[("A", ["B"])], by decide⟩
      transitions :=
        [{ source := "A"
           target := "B"
           conditions := [.ofField "n" "==" (.structured (nestedArrays 120))] }] })], by decide⟩

set_option maxRecDepth 4000 in
/-- The document is valid and a running engine takes it, but no engine starts on it. -/
theorem ofDocument_tooDeep :
    tooDeep.validate.value = .ok () ∧
      (ofDocument tooDeep).value = .error (.document Document.unreadable) ∧
      (Engine.reloadDocument ⟨.empty, none⟩ tooDeep).value.2 =
        .ok (.installed 2 (Fingerprint.ofBytes tooDeep.canonicalBytes) ⟨1, 1, 1⟩) := by
  have valid : tooDeep.validate.value = .ok () := by decide
  have unread : Document.parse? tooDeep.canonicalBytes = none := by
    have numbers : tooDeep.toValue.numbers = [] := rfl
    have read := Json.Node.read?_written tooDeep.toValue (numbers ▸ List.forall_mem_nil _)
    rw [Document.parse?, Document.canonicalBytes, Document.canonicalText, read]
    rfl
  have refused : (Document.load tooDeep.canonicalBytes).value = .error Document.unreadable := by
    rw [Document.load, unread]
  have stats (fingerprint : Fingerprint) :
      (Registry.build tooDeep fingerprint).stats = ⟨1, 1, 1⟩ := rfl
  refine ⟨valid, value_ofDocument_of_refused valid refused, ?_⟩
  have outcome : (Engine.reloadDocument ⟨.empty, none⟩ tooDeep).value.2 =
      (Coordinator.empty.reload tooDeep).value.2 := rfl
  rw [outcome, Coordinator.value_reload, valid, Except.map, Coordinator.adopt, stats]
  rfl

end Engine

end WorkflowGuard
