import Mathlib
import WorkflowGuard.Proofs.Coordinator.Calls
import WorkflowGuard.Proofs.Document.Validity
import WorkflowGuard.Proofs.Registry.Lookup

/-!
# What a document says about moves

A document can be read directly, without compiling it into a registry: the workflow lists the
states that may follow a state, and a transition rule guards the edge it names. This file
states that reading and proves that an engine started on the document's bytes decides every move
by it.

The engine keeps one guard per edge and takes the last rule of an edge, while the direct reading
speaks of the rule of an edge. Both are the same because a document with two rules of one
edge is refused.
-/

namespace WorkflowGuard

namespace Document

/-- The domain that a ticket belongs to: its own, or the default domain if its own is blank and
there is a default domain. -/
def domainOf (document : Document) (ticket : Ticket) : String :=
  if Text.isBlank ticket.domain then document.defaultDomain.getD ticket.domain
  else ticket.domain

/-- The states that the workflow lists after the status of a ticket. -/
def listedStates (document : Document) (ticket : Ticket) : List String :=
  ((document.domains.find? (document.domainOf ticket)).bind fun rules =>
    rules.workflow.find? ticket.status).getD []

/-- The rule is a transition rule of the ticket's domain, from the ticket's status to the
target. -/
def Guards (document : Document) (ticket : Ticket) (target : String) (rule : TransitionRule) :
    Prop :=
  ∃ rules, document.domains.find? (document.domainOf ticket) = some rules ∧
    rule ∈ rules.transitions ∧ rule.source = ticket.status ∧ rule.target = target

/-- The document, read directly, lets the principal move the ticket to the target. -/
structure Permits (document : Document) (ticket : Ticket) (target : String)
    (principal : Principal) (now : Instant) : Prop where
  listed : target ∈ document.listedStates ticket
  guarded : ∀ rule, document.Guards ticket target rule →
    (Predicate.compile rule.conditions).holds ticket principal now = true
  unguarded : (∀ rule, ¬document.Guards ticket target rule) →
    document.policies.transition = .allow

/-- In an accepted document a move has one guard at most. -/
theorem Guards.unique {document : Document} (valid : document.validate.value = .ok ())
    {ticket : Ticket} {target : String} {left right : TransitionRule}
    (leftGuards : document.Guards ticket target left)
    (rightGuards : document.Guards ticket target right) : left = right := by
  rcases leftGuards with ⟨rules, found, leftMem, leftSource, leftTarget⟩
  rcases rightGuards with ⟨others, foundAgain, rightMem, rightSource, rightTarget⟩
  have sameRules : rules = others := Option.some.inj (found.symm.trans foundAgain)
  subst sameRules
  exact (edgesDistinct_of_validate valid found).rule_unique leftMem rightMem
    (leftSource.trans rightSource.symm) (leftTarget.trans rightTarget.symm)

/-- So the guard of a move is the last rule for its edge. -/
theorem guards_iff_lastGuard? {document : Document} (valid : document.validate.value = .ok ())
    (ticket : Ticket) (target : String) (rule : TransitionRule) :
    document.Guards ticket target rule ↔
      ((document.domains.find? (document.domainOf ticket)).bind fun rules =>
        rules.lastGuard? ticket.status target) = some rule := by
  constructor
  · intro guards
    rcases guards with ⟨rules, found, member, source, goal⟩
    rw [found, Option.bind_some]
    cases last : rules.lastGuard? ticket.status target with
    | none => exact absurd ⟨source, goal⟩ (DomainRules.lastGuard?_eq_none last member)
    | some other =>
        rcases DomainRules.lastGuard?_mem last with ⟨otherMem, otherSource, otherTarget⟩
        have same : other = rule := Guards.unique valid
          ⟨rules, found, otherMem, otherSource, otherTarget⟩ ⟨rules, found, member, source, goal⟩
        rw [same]
  · intro last
    rcases Option.bind_eq_some_iff.mp last with ⟨rules, found, isLast⟩
    exact ⟨rules, found, DomainRules.lastGuard?_mem isLast⟩

end Document

namespace Registry

theorem resolveDomain_build (document : Document) (fingerprint : Fingerprint)
    (ticket : Ticket) :
    (build document fingerprint).resolveDomain ticket.domain = document.domainOf ticket := by
  rw [resolveDomain, Document.domainOf, defaultDomain_build]
  cases document.defaultDomain with
  | none => simp
  | some fallback => simp

theorem nextStates_build_domainOf (document : Document) (fingerprint : Fingerprint)
    (ticket : Ticket) :
    (build document fingerprint).nextStates (document.domainOf ticket) ticket.status =
      document.listedStates ticket := by
  rw [nextStates_build]
  rfl

/-- A move is decided by its guard, or by the policy if it has none. -/
theorem lookup_build_guard (document : Document) (fingerprint : Fingerprint) (ticket : Ticket)
    (target : String) :
    (build document fingerprint).lookup
        (.transition (document.domainOf ticket) ticket.status target) =
      match (document.domains.find? (document.domainOf ticket)).bind fun rules =>
        rules.lastGuard? ticket.status target with
      | some rule => Predicate.compile rule.conditions
      | none => .constant document.policies.transition.permits := by
  rw [lookup]
  rw [find?_build_transition]
  cases document.domains.find? (document.domainOf ticket) with
  | none => rfl
  | some rules =>
      rw [Option.bind_some, Option.bind_some]
      cases rules.lastGuard? ticket.status target with
      | none => rfl
      | some rule => rfl

/-- A move is allowed just when it is listed and its guard, or the policy, permits it. -/
theorem allows_build_iff {document : Document} (valid : document.validate.value = .ok ())
    (fingerprint : Fingerprint) (ticket : Ticket) (target : String) (principal : Principal)
    (now : Instant) :
    (build document fingerprint).allows ticket target principal now = true ↔
      document.Permits ticket target principal now := by
  rw [allows]
  simp only [Bool.and_eq_true, List.contains_iff_mem, resolveDomain_build,
    nextStates_build_domainOf, lookup_build_guard]
  have guards_iff := document.guards_iff_lastGuard? valid ticket target
  cases last : (document.domains.find? (document.domainOf ticket)).bind fun rules =>
      rules.lastGuard? ticket.status target with
  | some guard =>
      -- The edge has a rule, and by validity no other.
      have isGuard : document.Guards ticket target guard := (guards_iff guard).mpr last
      constructor
      · rintro ⟨listed, holds⟩
        refine ⟨listed, ?_, fun unguarded => absurd isGuard (unguarded guard)⟩
        intro rule guards
        rw [Document.Guards.unique valid guards isGuard]
        exact holds
      · intro permits
        exact ⟨permits.listed, permits.guarded guard isGuard⟩
  | none =>
      have noGuard : ∀ rule, ¬document.Guards ticket target rule := by
        intro rule guards
        rw [guards_iff rule, last] at guards
        cases guards
      constructor
      · rintro ⟨listed, permitted⟩
        refine ⟨listed, fun rule guards => absurd guards (noGuard rule), fun _ => ?_⟩
        change document.policies.transition.permits = true at permitted
        cases policy : document.policies.transition with
        | allow => rfl
        | deny => simp [policy, Policy.permits] at permitted
      · intro permits
        refine ⟨permits.listed, ?_⟩
        rw [permits.unguarded noGuard]
        rfl

theorem validNextStates_build (document : Document) (fingerprint : Fingerprint)
    (ticket : Ticket) (principal : Principal) (now : Instant) :
    (build document fingerprint).validNextStates ticket principal now =
      (document.listedStates ticket).filter fun target =>
        (build document fingerprint).allows ticket target principal now := by
  rw [validNextStates]
  rw [resolveDomain_build, nextStates_build_domainOf]

/-- Whatever is allowed is offered, for what is allowed is listed. -/
theorem mem_validNextStates_build_iff {document : Document}
    (valid : document.validate.value = .ok ()) (fingerprint : Fingerprint) (ticket : Ticket)
    (target : String) (principal : Principal) (now : Instant) :
    target ∈ (build document fingerprint).validNextStates ticket principal now ↔
      (build document fingerprint).allows ticket target principal now = true := by
  rw [validNextStates_build, List.mem_filter]
  constructor
  · exact And.right
  · intro allowed
    have permits := (allows_build_iff valid fingerprint ticket target principal now).mp allowed
    exact ⟨permits.listed, allowed⟩

end Registry

namespace Engine

/-- On accepted bytes an engine starts, with their registry installed over the empty one. -/
theorem value_start {source : Source} {bytes : Bytes} {document : Document}
    (contents : source.contents = .ok bytes)
    (accepted : (Document.load bytes).value = .ok document) :
    (start source).value =
      .ok ⟨⟨(Registry.build document (Fingerprint.ofBytes bytes)).withGeneration 2, 3⟩,
        source.currentRevision⟩ := by
  rw [start]
  rw [contents]
  simp only [Logged.value_bind, Logged.value_pure]
  rw [Coordinator.reloadBytes]
  rw [Coordinator.value_loadAs, accepted]
  rfl

/-- The engine decides every move as the document says. -/
structure Follows (engine : Engine) (document : Document) : Prop where
  /-- A move is allowed just when the document, read directly, permits it. -/
  allows_iff : ∀ ticket target principal now,
    engine.registry.allows ticket target principal now = true ↔
      document.Permits ticket target principal now
  /-- The states offered are the listed ones in their order, less those that are refused. -/
  validNextStates_eq : ∀ ticket principal now,
    engine.registry.validNextStates ticket principal now =
      (document.listedStates ticket).filter fun target =>
        engine.registry.allows ticket target principal now
  /-- A state is offered just when the move to it is allowed. -/
  offered_iff : ∀ ticket target principal now,
    target ∈ engine.registry.validNextStates ticket principal now ↔
      engine.registry.allows ticket target principal now = true

/-- An engine starts on the bytes of every accepted document, and then decides every move of
every ticket as that document says. -/
theorem start_follows_document {source : Source} {bytes : Bytes} {document : Document}
    (contents : source.contents = .ok bytes)
    (accepted : (Document.load bytes).value = .ok document) :
    ∃ engine, (start source).value = .ok engine ∧ engine.Follows document := by
  have valid : document.validate.value = .ok () := (Document.value_load_eq_ok_iff.mp accepted).2
  refine ⟨_, value_start contents accepted, ?_⟩
  constructor
  · intro ticket target principal now
    simp only [registry, Registry.allows_withGeneration]
    exact Registry.allows_build_iff valid _ ticket target principal now
  · intro ticket principal now
    simp only [registry, Registry.allows_withGeneration,
      Registry.validNextStates_withGeneration]
    exact Registry.validNextStates_build document _ ticket principal now
  · intro ticket target principal now
    simp only [registry, Registry.allows_withGeneration,
      Registry.validNextStates_withGeneration]
    exact Registry.mem_validNextStates_build_iff valid _ ticket target principal now

/-- A document whose only edge has a rule without a role or a field, which cannot be compiled. -/
def brokenGuard : Document where
  defaultDomain := some "it"
  domains := ⟨[("it",
    { workflow := ⟨[("Open", ["Closed"])], by decide⟩
      transitions := [⟨"Open", "Closed", [{}]⟩] })], by decide⟩

/-- A spelling of `brokenGuard` in which records are lists of their fields. -/
def brokenGuardBytes : Bytes :=
  Text.utf8 ("[\x7b\x7d,\"it\",\x7b\"it\":[\x7b\"Open\":[\"Closed\"]\x7d," ++
    "[[\"Open\",\"Closed\",[\x7b\x7d]]]]\x7d]")

/-- The guard cannot be compiled, and the text of the document is written in an odd way. -/
theorem start_follows_brokenGuard :
    (StaticSource.new brokenGuardBytes).toSource.contents = .ok brokenGuardBytes ∧
      (Document.load brokenGuardBytes).value = .ok brokenGuard ∧
      ∃ engine, (start (StaticSource.new brokenGuardBytes).toSource).value = .ok engine ∧
        engine.Follows brokenGuard := by
  have contents :
      (StaticSource.new brokenGuardBytes).toSource.contents = .ok brokenGuardBytes := rfl
  have accepted : (Document.load brokenGuardBytes).value = .ok brokenGuard := by cbv
  exact ⟨contents, accepted, start_follows_document contents accepted⟩

end Engine

end WorkflowGuard
