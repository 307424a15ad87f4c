import Mathlib
import WorkflowGuard.Proofs.Coordinator.History
import WorkflowGuard.Proofs.Document.Validity

/-!
# Skipping bytes that are live

A reload may be skipped when the fingerprint of its bytes is the live one. Nothing is read
then, so the live registry is trusted to be that of the bytes. This file justifies the trust for
coordinators that started empty: a skipped reload leaves the registry that carrying it out
would have built.

The invariant is that the live registry is always that of a document spelled by bytes which
were hashed during the run, under the fingerprint of these bytes. The bytes come from a caller,
from the canonical text of a document, or from the document without rules; the last two are
accepted because canonical text is read back.
-/

namespace WorkflowGuard

/-- Two registries agree in everything but the number of the installation. -/
structure Registry.Agrees (left right : Registry) : Prop where
  fingerprint : left.fingerprint = right.fingerprint
  stats : left.stats = right.stats
  policies : left.policies = right.policies
  defaultDomain : left.defaultDomain = right.defaultDomain
  find? : ∀ key, left.find? key = right.find? key
  lookup : ∀ key, left.lookup key = right.lookup key
  nextStates : ∀ domain source, left.nextStates domain source = right.nextStates domain source
  groupRules : ∀ domain group, left.groupRules domain group = right.groupRules domain group
  rest : left.withGeneration right.generation = right

theorem Registry.agrees_withGeneration (registry : Registry) (left right : Nat) :
    (registry.withGeneration left).Agrees (registry.withGeneration right) := by
  constructor
  case find? =>
    intro key
    cases key with
    | transition domain source target => rfl
    | group domain group index => rfl
  case lookup =>
    intro key
    rw [lookup_withGeneration, lookup_withGeneration]
  case nextStates =>
    intro domain source
    rfl
  case groupRules =>
    intro domain group
    rfl
  all_goals rfl

theorem Registry.Agrees.refl (registry : Registry) : registry.Agrees registry :=
  registry.agrees_withGeneration registry.generation registry.generation

/-- Reading the canonical text of the document gives it back. -/
def Document.ReadsBack (document : Document) : Prop :=
  parse? document.canonicalBytes = some document

theorem Document.readsBack_default : Document.ReadsBack {} := by
  have spelled : canonicalBytes {} = Text.utf8
      ("\x7b\"defaults\":\x7b\"transition\":\"allow\",\"group\":\"deny\"\x7d," ++
        "\"domains\":\x7b\x7d\x7d") := by
    decide +kernel
  rw [ReadsBack, spelled]
  cbv

/-- No two of the byte strings have the same fingerprint. -/
def Fingerprint.CollisionFree (inputs : List Bytes) : Prop :=
  ∀ left ∈ inputs, ∀ right ∈ inputs, ofBytes left = ofBytes right → left = right

theorem Fingerprint.CollisionFree.subset {smaller larger : List Bytes}
    (collisionFree : CollisionFree larger) (subset : smaller ⊆ larger) : CollisionFree smaller := by
  intro left leftMember right rightMember
  exact collisionFree left (subset leftMember) right (subset rightMember)

theorem Fingerprint.collisionFree_pair {first second : Bytes}
    (different : ofBytes first ≠ ofBytes second) : CollisionFree [first, second] := by
  intro left leftMember right rightMember same
  rcases List.mem_pair.mp leftMember with rfl | rfl <;>
    rcases List.mem_pair.mp rightMember with rfl | rfl
  · rfl
  · exact absurd same different
  · exact absurd same.symm different
  · rfl

namespace Coordinator

/-- The call brings bytes, or a document that is read back from its canonical text. -/
def Call.BringsText : Call → Prop
  | .reload document => document.ReadsBack
  | .reloadBytes _ | .reloadBytesIfChanged _ => True
  | .install _ => False

/-- The bytes that a call takes the fingerprint of. -/
def Call.hashed : Call → List Bytes
  | .reload document => [document.canonicalBytes]
  | .reloadBytes bytes | .reloadBytesIfChanged bytes => [bytes]
  | .install _ => []

/-- The bytes that are hashed when a run starts empty and more bytes are brought after it. -/
def hashedBytes (calls : List Call) (bytes : Bytes) : List Bytes :=
  Document.canonicalBytes {} :: bytes :: calls.flatMap Call.hashed

/-- The live registry is that of the document which the bytes spell. -/
def Serves (coordinator : Coordinator) (bytes : Bytes) : Prop :=
  ∃ document, (Document.load bytes).value = .ok document ∧
    ∃ generation, coordinator.current =
      (Registry.build document (Fingerprint.ofBytes bytes)).withGeneration generation

/-- A coordinator starts with the document without rules. -/
theorem serves_empty : empty.Serves (Document.canonicalBytes {}) := by
  have accepted : (Document.load (Document.canonicalBytes {})).value = .ok {} :=
    Document.value_load_eq_ok_iff.mpr ⟨Document.readsBack_default, rfl⟩
  exact ⟨{}, accepted, 1, rfl⟩

/-- The offer of such a call is the registry of some bytes that it hashes. -/
theorem Call.offer_text {call : Call} {registry : Registry} (text : call.BringsText)
    (offered : call.offer = .ok registry) :
    ∃ bytes ∈ call.hashed, ∃ document, (Document.load bytes).value = .ok document ∧
      registry = Registry.build document (Fingerprint.ofBytes bytes) := by
  cases call with
  | reload document =>
      cases valid : document.validate.value with
      | error error =>
          rw [offer, valid] at offered
          cases offered
      | ok checked =>
          rw [offer, valid] at offered
          cases offered
          refine ⟨_, List.mem_singleton_self _, document, ?_, rfl⟩
          exact Document.value_load_eq_ok_iff.mpr ⟨text, valid⟩
  | reloadBytes bytes | reloadBytesIfChanged bytes =>
      cases accepted : (Document.load bytes).value with
      | error error =>
          rw [offer, accepted] at offered
          cases offered
      | ok document =>
          rw [offer, accepted] at offered
          cases offered
          exact ⟨bytes, List.mem_singleton_self _, document, accepted, rfl⟩
  | install registry => exact False.elim text

/-- After a call the live registry is that of the bytes served before, or of bytes the call hashes.
-/
theorem Serves.next {coordinator : Coordinator} {bytes : Bytes}
    (serves : coordinator.Serves bytes) {call : Call} (text : call.BringsText) :
    ∃ served ∈ bytes :: call.hashed, (coordinator.next call).Serves served := by
  rcases coordinator.next_cases call with ⟨registry, offered, installed, _⟩ | ⟨same, _⟩
  · rcases call.offer_text text offered with ⟨served, hashed, document, accepted, rfl⟩
    refine ⟨served, List.mem_cons_of_mem _ hashed, document, accepted, ?_⟩
    rw [installed]
    exact ⟨_, rfl⟩
  · rw [same]
    exact ⟨bytes, List.mem_cons_self, serves⟩

/-- After a run it is that of bytes which were hashed on the way. -/
theorem Serves.after {coordinator : Coordinator} {bytes : Bytes}
    (serves : coordinator.Serves bytes) {calls : List Call}
    (text : ∀ call ∈ calls, call.BringsText) :
    ∃ served ∈ bytes :: calls.flatMap Call.hashed, (coordinator.after calls).Serves served := by
  induction calls generalizing coordinator bytes with
  | nil => exact ⟨bytes, List.mem_singleton_self _, serves⟩
  | cons call later ih =>
      rcases serves.next (text call List.mem_cons_self) with ⟨middle, middleHashed, servesMiddle⟩
      rcases ih servesMiddle (fun other member => text other (List.mem_cons_of_mem _ member)) with
        ⟨served, servedHashed, servesLast⟩
      refine ⟨served, ?_, servesLast⟩
      simp only [List.mem_cons, List.flatMap_cons, List.mem_append] at middleHashed servedHashed ⊢
      grind

theorem Serves.fingerprint {coordinator : Coordinator} {bytes : Bytes}
    (serves : coordinator.Serves bytes) :
    coordinator.current.fingerprint = Fingerprint.ofBytes bytes := by
  rcases serves with ⟨document, _, generation, live⟩
  rw [live]
  rfl

section Bytes

variable {coordinator : Coordinator} {bytes : Bytes}

/-- Bytes whose fingerprint is live are reported as unchanged, without being read. -/
theorem outcome_of_live (live : coordinator.current.fingerprint = Fingerprint.ofBytes bytes) :
    coordinator.outcome (.reloadBytesIfChanged bytes) =
      .ok (.unchanged (Fingerprint.ofBytes bytes)) := by
  have skips : (Call.reloadBytesIfChanged bytes).Skips coordinator := live
  rw [outcome, value_perform_of_skips skips, live]

theorem next_of_live (live : coordinator.current.fingerprint = Fingerprint.ofBytes bytes) :
    coordinator.next (.reloadBytesIfChanged bytes) = coordinator := by
  have skips : (Call.reloadBytesIfChanged bytes).Skips coordinator := live
  rw [next, value_perform_of_skips skips]

theorem value_perform_reloadBytes :
    (coordinator.perform (.reloadBytes bytes)).value =
      coordinator.adopt (Call.reloadBytes bytes).offer :=
  value_perform_of_not_skips id

theorem value_perform_of_not_live
    (stale : coordinator.current.fingerprint ≠ Fingerprint.ofBytes bytes) :
    (coordinator.perform (.reloadBytesIfChanged bytes)).value =
      (coordinator.perform (.reloadBytes bytes)).value := by
  have carriedOut : ¬(Call.reloadBytesIfChanged bytes).Skips coordinator := stale
  rw [value_perform_of_not_skips carriedOut, value_perform_reloadBytes]
  rfl

theorem value_perform_of_accepted {document : Document}
    (accepted : (Document.load bytes).value = .ok document) :
    (coordinator.perform (.reloadBytes bytes)).value =
      coordinator.adopt (.ok (Registry.build document (Fingerprint.ofBytes bytes))) := by
  rw [value_perform_reloadBytes, Call.offer, accepted]
  rfl

theorem fingerprint_of_reloadBytes {result : ReloadOutcome}
    (succeeded : coordinator.outcome (.reloadBytes bytes) = .ok result) :
    (coordinator.next (.reloadBytes bytes)).current.fingerprint = Fingerprint.ofBytes bytes := by
  cases accepted : (Document.load bytes).value with
  | error error =>
      rw [outcome, value_perform_reloadBytes, Call.offer, accepted] at succeeded
      cases succeeded
  | ok document =>
      rw [next, value_perform_of_accepted accepted]
      rfl

theorem fingerprint_of_reloadBytesIfChanged {result : ReloadOutcome}
    (succeeded : coordinator.outcome (.reloadBytesIfChanged bytes) = .ok result) :
    (coordinator.next (.reloadBytesIfChanged bytes)).current.fingerprint =
      Fingerprint.ofBytes bytes := by
  by_cases live : coordinator.current.fingerprint = Fingerprint.ofBytes bytes
  · rw [next_of_live live]
    exact live
  · rw [outcome, value_perform_of_not_live live] at succeeded
    rw [next, value_perform_of_not_live live]
    exact fingerprint_of_reloadBytes succeeded

end Bytes

/-- Bringing bytes with leave to skip them is as good as reloading them. -/
structure SkipsSafely (coordinator : Coordinator) (bytes : Bytes) : Prop where
  /-- Both ways fail alike. -/
  fails_iff : ∀ error,
    coordinator.outcome (.reloadBytesIfChanged bytes) = .error error ↔
      coordinator.outcome (.reloadBytes bytes) = .error error
  /-- When both succeed, the registries that are live then agree. -/
  agrees : ∀ quick plain,
    coordinator.outcome (.reloadBytesIfChanged bytes) = .ok quick →
    coordinator.outcome (.reloadBytes bytes) = .ok plain →
      (coordinator.next (.reloadBytesIfChanged bytes)).current.Agrees
        (coordinator.next (.reloadBytes bytes)).current
  /-- After a success of either kind the same bytes are skipped. -/
  again : ∀ call result, call = .reloadBytesIfChanged bytes ∨ call = .reloadBytes bytes →
    coordinator.outcome call = .ok result →
      (coordinator.next call).outcome (.reloadBytesIfChanged bytes) =
          .ok (.unchanged (Fingerprint.ofBytes bytes)) ∧
        (coordinator.next call).next (.reloadBytesIfChanged bytes) = coordinator.next call

/-- If bytes with the live fingerprint are the bytes served, both ways of reloading come to the
same. -/
theorem Serves.skipsSafely {coordinator : Coordinator} {served bytes : Bytes}
    (serves : coordinator.Serves served)
    (distinct : Fingerprint.ofBytes served = Fingerprint.ofBytes bytes → served = bytes) :
    coordinator.SkipsSafely bytes := by
  constructor
  case fails_iff =>
    intro error
    by_cases live : coordinator.current.fingerprint = Fingerprint.ofBytes bytes
    · -- The bytes are those being served, so reading them again succeeds.
      cases distinct (serves.fingerprint.symm.trans live)
      rcases serves with ⟨document, accepted, _⟩
      rw [outcome_of_live live, outcome, value_perform_of_accepted accepted]
      simp [adopt]
    · rw [outcome, outcome, value_perform_of_not_live live]
  case agrees =>
    intro quick plain _ _
    by_cases live : coordinator.current.fingerprint = Fingerprint.ofBytes bytes
    · cases distinct (serves.fingerprint.symm.trans live)
      rcases serves with ⟨document, accepted, generation, current⟩
      rw [next_of_live live, current, Coordinator.next, value_perform_of_accepted accepted]
      exact Registry.agrees_withGeneration _ _ _
    · rw [Coordinator.next, Coordinator.next, value_perform_of_not_live live]
      exact Registry.Agrees.refl _
  case again =>
    rintro call result bringsBytes succeeded
    have live : (coordinator.next call).current.fingerprint = Fingerprint.ofBytes bytes := by
      rcases bringsBytes with rfl | rfl
      · exact fingerprint_of_reloadBytesIfChanged succeeded
      · exact fingerprint_of_reloadBytes succeeded
    exact ⟨outcome_of_live live, next_of_live live⟩

/-- After any run from an empty coordinator that brought bytes, or documents that are read back,
known bytes may be skipped, provided the byte strings of the run have distinct fingerprints. -/
theorem skipsSafely_after {calls : List Call} (text : ∀ call ∈ calls, call.BringsText)
    {bytes : Bytes} (collisionFree : Fingerprint.CollisionFree (hashedBytes calls bytes)) :
    (empty.after calls).SkipsSafely bytes := by
  rcases serves_empty.after text with ⟨served, hashed, serves⟩
  apply serves.skipsSafely
  intro sameFingerprint
  refine collisionFree served ?_ bytes ?_ sameFingerprint
  · rw [hashedBytes]
    rcases List.mem_cons.mp hashed with first | later
    · exact List.mem_cons.mpr (Or.inl first)
    · exact List.mem_cons_of_mem _ (List.mem_cons_of_mem _ later)
  · exact List.mem_cons_of_mem _ List.mem_cons_self

def onlyDefaultDomain : Document where
  defaultDomain := some "it"

theorem skipsSafely_after_onlyDefaultDomain :
    (∀ call ∈ [Call.reload onlyDefaultDomain], call.BringsText) ∧
      Fingerprint.CollisionFree
        (hashedBytes [.reload onlyDefaultDomain] onlyDefaultDomain.canonicalBytes) ∧
      (empty.after [.reload onlyDefaultDomain]).SkipsSafely onlyDefaultDomain.canonicalBytes := by
  have spelled : onlyDefaultDomain.canonicalBytes = Text.utf8
      ("\x7b\"defaults\":\x7b\"transition\":\"allow\",\"group\":\"deny\"\x7d," ++
        "\"default_domain\":\"it\",\"domains\":\x7b\x7d\x7d") := by
    decide +kernel
  have readsBack : onlyDefaultDomain.ReadsBack := by
    rw [Document.ReadsBack, spelled]
    cbv
  have text : ∀ call ∈ [Call.reload onlyDefaultDomain], call.BringsText := by
    intro call member
    cases List.mem_singleton.mp member
    exact readsBack
  have different : Fingerprint.ofBytes (Document.canonicalBytes {}) ≠
      Fingerprint.ofBytes onlyDefaultDomain.canonicalBytes := by decide +kernel
  have collisionFree : Fingerprint.CollisionFree
      (hashedBytes [.reload onlyDefaultDomain] onlyDefaultDomain.canonicalBytes) := by
    intro left leftMem right rightMem same
    simp only [hashedBytes, Call.hashed, List.flatMap_cons, List.flatMap_nil, List.append_nil,
      List.mem_cons, List.not_mem_nil, or_false, or_self] at leftMem rightMem
    rcases leftMem with rfl | rfl <;> rcases rightMem with rfl | rfl
    · rfl
    · exact absurd same different
    · exact absurd same.symm different
    · rfl
  exact ⟨text, collisionFree, skipsSafely_after text collisionFree⟩

end Coordinator

end WorkflowGuard
