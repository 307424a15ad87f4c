import Mathlib
import WorkflowGuard.Proofs.Instant.Shift
import WorkflowGuard.Proofs.Registry.Contents
import WorkflowGuard.Proofs.Rule.Meaning

/-!
# What answers depend on

A registry is asked about a ticket by a principal at an instant. Of all this it looks at the
domain and the status of the ticket, and at what the rules of its document name: roles, custom
fields, and the two numbers of days. Inquiries that agree so far are answered alike, and this
file proves it for every registry that was built from a document, validated or not.

The proof compares the direct readings of descriptors. A rule with a fault is refused to both
inquiries, and the rule that decides is found by the same key for both, so nothing else of the
compiler has to be looked at.

A common shift of all timestamps keeps the numbers of days, and with them the answers, as long
as no timestamp lies in a leap second. The age of a ticket that was created in a leap second can
change its sign by such a shift.
-/

namespace WorkflowGuard

/-- Who asks about which ticket, and when. -/
structure Inquiry where
  ticket : Ticket
  principal : Principal
  now : Instant

namespace Inquiry

def withId (inquiry : Inquiry) (id : TicketId) : Inquiry :=
  { inquiry with ticket.id := id }

def withPayload (inquiry : Inquiry) (payload : String) : Inquiry :=
  { inquiry with ticket.payload := payload }

def stored (inquiry : Inquiry) (field : String) : Stored :=
  Stored.ofTicket inquiry.ticket field

def age (inquiry : Inquiry) : Int :=
  inquiry.now.millisSince inquiry.ticket.createdAt

def timeLeft (inquiry : Inquiry) : Option Int :=
  inquiry.ticket.target.map (·.millisSince inquiry.now)

/-- The same inquiry with all three timestamps moved by so many nanoseconds. -/
def shift (inquiry : Inquiry) (nanos : Int) : Inquiry where
  ticket :=
    { inquiry.ticket with
      createdAt := inquiry.ticket.createdAt.shift nanos
      target := inquiry.ticket.target.map (·.shift nanos) }
  principal := inquiry.principal
  now := inquiry.now.shift nanos

/-- None of the timestamps lies in a leap second. -/
structure OutsideLeapSeconds (inquiry : Inquiry) : Prop where
  now : inquiry.now.inLeapSecond = false
  createdAt : inquiry.ticket.createdAt.inLeapSecond = false
  target : ∀ target, inquiry.ticket.target = some target → target.inLeapSecond = false

theorem OutsideLeapSeconds.age_shift {inquiry : Inquiry} (ordinary : inquiry.OutsideLeapSeconds)
    (nanos : Int) : (inquiry.shift nanos).age = inquiry.age :=
  Instant.millisSince_shift ordinary.now ordinary.createdAt nanos

theorem OutsideLeapSeconds.timeLeft_shift {inquiry : Inquiry}
    (ordinary : inquiry.OutsideLeapSeconds) (nanos : Int) :
    (inquiry.shift nanos).timeLeft = inquiry.timeLeft := by
  simp only [timeLeft, shift, Option.map_map]
  apply Option.map_congr
  intro target isTarget
  exact Instant.millisSince_shift (ordinary.target target isTarget) ordinary.now nanos

end Inquiry

namespace Document

/-- The descriptor stands in a rule of the document, whether the rule can be compiled or not. -/
def Mentions (document : Document) (descriptor : Descriptor) : Prop :=
  ∃ key conditions, (key, conditions) ∈ document.keyedRules ∧ descriptor ∈ conditions

def NamesRole (document : Document) (role : String) : Prop :=
  ∃ descriptor, document.Mentions descriptor ∧ descriptor.role = some role

def NamesField (document : Document) (field : String) : Prop :=
  ∃ descriptor, document.Mentions descriptor ∧ descriptor.field = some field

/-- Two inquiries agree on everything that the rules of the document name. -/
structure Alike (document : Document) (left right : Inquiry) : Prop where
  domain : left.ticket.domain = right.ticket.domain
  status : left.ticket.status = right.ticket.status
  roles : ∀ role, document.NamesRole role →
    left.principal.holds role = right.principal.holds role
  /-- The payloads hold the same data, or none, under each name that is not reserved. -/
  fields : ∀ field, document.NamesField field → TimeField.ofName? field = none →
    left.stored field = right.stored field
  age : document.NamesField TimeField.ageDays.name → left.age = right.age
  timeLeft : document.NamesField TimeField.daysUntilBreach.name →
    left.timeLeft = right.timeLeft

variable {document : Document} {left right : Inquiry}

/-- Day counts that the document names are the same for alike inquiries. -/
theorem Alike.dayCount (alike : document.Alike left right) {field : TimeField}
    (named : document.NamesField field.name) :
    Descriptor.dayCount left.ticket left.now field =
      Descriptor.dayCount right.ticket right.now field := by
  cases field with
  | ageDays => exact congrArg TimeField.daysOfMillis (alike.age named)
  | daysUntilBreach =>
      have sameDays := congrArg (Option.map TimeField.daysOfMillis) (alike.timeLeft named)
      simp only [Inquiry.timeLeft, Option.map_map] at sameDays
      exact congrArg (Option.getD · _) sameDays

theorem Alike.fieldHolds_iff (alike : document.Alike left right) {field : String}
    (named : document.NamesField field) (operator : Operator) (value : Option Literal) :
    Descriptor.FieldHolds left.ticket left.now field operator value ↔
      Descriptor.FieldHolds right.ticket right.now field operator value := by
  simp only [Descriptor.FieldHolds]
  cases reserved : TimeField.ofName? field with
  | some timeField =>
      rw [TimeField.ofName?_eq_some_iff.mp reserved] at named
      cases operator <;> cases value <;> simp [alike.dayCount named]
  | none =>
      have sameData := alike.fields field named reserved
      simp only [Inquiry.stored] at sameData
      cases operator <;> cases value <;> simp [sameData]

theorem Alike.symm (alike : document.Alike left right) : document.Alike right left := by
  constructor
  · exact alike.domain.symm
  · exact alike.status.symm
  · intro role named
    exact (alike.roles role named).symm
  · intro field named unreserved
    exact (alike.fields field named unreserved).symm
  · intro named
    exact (alike.age named).symm
  · intro named
    exact (alike.timeLeft named).symm

/-- A descriptor of the document that holds for one of two alike inquiries holds for the other. -/
theorem Alike.holds (alike : document.Alike left right) {descriptor : Descriptor}
    (mentioned : document.Mentions descriptor)
    (holds : descriptor.Holds left.ticket left.principal left.now) :
    descriptor.Holds right.ticket right.principal right.now := by
  constructor
  · intro role isRole
    rw [← alike.roles role ⟨descriptor, mentioned, isRole⟩]
    exact holds.role role isRole
  · intro field isField
    have named : document.NamesField field := ⟨descriptor, mentioned, isField⟩
    rcases holds.field field isField with ⟨operator, written, satisfied⟩
    exact ⟨operator, written, (alike.fieldHolds_iff named operator _).mp satisfied⟩

theorem Alike.compile_holds (alike : document.Alike left right) {conditions : List Descriptor}
    (mentioned : ∀ descriptor ∈ conditions, document.Mentions descriptor) :
    (Predicate.compile conditions).holds left.ticket left.principal left.now =
      (Predicate.compile conditions).holds right.ticket right.principal right.now := by
  rw [Predicate.compile]
  cases compiled : Predicate.compile? conditions with
  | error error => rfl
  | ok predicate =>
      rcases Predicate.compile?_eq_ok compiled with ⟨lowered, isLowered, rfl⟩
      simp only [Predicate.holds_ofConditions]
      apply Bool.eq_iff_iff.mpr
      rw [Descriptor.allConditions_holds_iff isLowered,
        Descriptor.allConditions_holds_iff isLowered]
      apply forall₂_congr
      intro descriptor member
      exact ⟨alike.holds (mentioned descriptor member),
        alike.symm.holds (mentioned descriptor member)⟩

theorem mem_keyedRules_of_ruleAt? {place : RulePlace} {rule : RuleKey × List Descriptor}
    (present : document.ruleAt? place = some rule) : rule ∈ document.keyedRules := by
  have visited : place ∈ document.places := by
    apply mem_places_iff.mpr
    simp [present]
  have listed : some rule ∈ document.keyedRules.map some := by
    rw [← map_ruleAt?_places, ← present]
    exact List.mem_map_of_mem visited
  simpa using listed

end Document

namespace Registry

/-- The two inquiries get the same answers about every target and every group. -/
structure AnswersAlike (registry : Registry) (left right : Inquiry) : Prop where
  allows : ∀ target, registry.allows left.ticket target left.principal left.now =
    registry.allows right.ticket target right.principal right.now
  validNextStates : registry.validNextStates left.ticket left.principal left.now =
    registry.validNextStates right.ticket right.principal right.now
  matchingRules : ∀ group, registry.matchingRules left.ticket left.principal group left.now =
    registry.matchingRules right.ticket right.principal group right.now

variable {document : Document} {left right : Inquiry}

/-- The predicate of a key is a fixed answer, or compiled from descriptors of the document. -/
theorem lookup_build_cases (document : Document) (fingerprint : Fingerprint) (key : RuleKey) :
    (∃ result, (build document fingerprint).lookup key = .constant result) ∨
      ∃ conditions, (build document fingerprint).lookup key = Predicate.compile conditions ∧
        ∀ descriptor ∈ conditions, document.Mentions descriptor := by
  cases found : (build document fingerprint).find? key with
  | none => exact Or.inl ⟨_, lookup_of_find?_none found⟩
  | some predicate =>
      right
      rcases find?_build_eq_some_iff_lastAt.mp found with ⟨place, conditions, isLast, rfl⟩
      refine ⟨conditions, lookup_of_find? found, ?_⟩
      intro descriptor member
      exact ⟨key, conditions, Document.mem_keyedRules_of_ruleAt? isLast.present, member⟩

/-- Every key decides alike inquiries alike, whether by a rule or by a policy. -/
theorem lookup_build_holds (alike : document.Alike left right) (fingerprint : Fingerprint)
    (key : RuleKey) :
    ((build document fingerprint).lookup key).holds left.ticket left.principal left.now =
      ((build document fingerprint).lookup key).holds right.ticket right.principal right.now := by
  rcases lookup_build_cases document fingerprint key with
    ⟨result, isFixed⟩ | ⟨conditions, isCompiled, mentioned⟩
  · rw [isFixed]
    rfl
  · rw [isCompiled]
    exact alike.compile_holds mentioned

theorem answersAlike_of_alike (alike : document.Alike left right) (fingerprint : Fingerprint) :
    (build document fingerprint).AnswersAlike left right := by
  have sameLookup := lookup_build_holds alike fingerprint
  have sameAllows : ∀ target,
      (build document fingerprint).allows left.ticket target left.principal left.now =
        (build document fingerprint).allows right.ticket target right.principal right.now := by
    intro target
    simp only [allows, alike.domain, alike.status, sameLookup]
  constructor
  case allows => exact sameAllows
  case validNextStates =>
    simp only [validNextStates, alike.domain, alike.status, sameAllows]
  case matchingRules =>
    intro group
    simp only [matchingRules, alike.domain, sameLookup]

/-- The answers of a registry depend on nothing but what the document names. -/
structure DependsOnNamed (registry : Registry) (document : Document) : Prop where
  alike : ∀ left right, document.Alike left right → registry.AnswersAlike left right
  identifier : ∀ inquiry id, registry.AnswersAlike inquiry (inquiry.withId id)
  /-- What a payload holds under other names does not matter, nor under a reserved name. -/
  payload : ∀ inquiry payload,
    (∀ field, document.NamesField field → TimeField.ofName? field = none →
      inquiry.stored field = (inquiry.withPayload payload).stored field) →
    registry.AnswersAlike inquiry (inquiry.withPayload payload)
  /-- A payload that is no object is as good as the empty object. -/
  malformed : ∀ inquiry,
    (∀ members,
      Json.Value.read? (Text.utf8 inquiry.ticket.payload) ≠ some (.object members)) →
    registry.AnswersAlike inquiry (inquiry.withPayload Ticket.emptyPayload)
  shifted : ∀ inquiry nanos, inquiry.OutsideLeapSeconds →
    registry.AnswersAlike inquiry (inquiry.shift nanos)

/-- A registry built from a document answers by what the document names alone. -/
theorem build_dependsOnNamed (document : Document) (fingerprint : Fingerprint) :
    (build document fingerprint).DependsOnNamed document := by
  constructor
  case alike =>
    intro left right alike
    exact answersAlike_of_alike alike fingerprint
  case identifier =>
    intro inquiry id
    have alike : document.Alike inquiry (inquiry.withId id) := by
      constructor <;> intros <;> rfl
    exact answersAlike_of_alike alike fingerprint
  case payload =>
    intro inquiry payload sameFields
    apply answersAlike_of_alike
    exact ⟨rfl, rfl, fun _ _ => rfl, sameFields, fun _ => rfl, fun _ => rfl⟩
  case malformed =>
    intro inquiry noObject
    have sameFields : ∀ field,
        inquiry.stored field = (inquiry.withPayload Ticket.emptyPayload).stored field := by
      intro field
      exact (Stored.ofPayload_of_not_object noObject field).trans
        (Stored.ofPayload_emptyPayload field).symm
    have alike : document.Alike inquiry (inquiry.withPayload Ticket.emptyPayload) :=
      ⟨rfl, rfl, fun _ _ => rfl, fun field _ _ => sameFields field, fun _ => rfl, fun _ => rfl⟩
    exact answersAlike_of_alike alike fingerprint
  case shifted =>
    intro inquiry nanos ordinary
    have alike : document.Alike inquiry (inquiry.shift nanos) := by
      refine ⟨rfl, rfl, fun _ _ => rfl, fun _ _ _ => rfl, ?_, ?_⟩
      · intro _
        exact (ordinary.age_shift nanos).symm
      · intro _
        exact (ordinary.timeLeft_shift nanos).symm
    exact answersAlike_of_alike alike fingerprint

/-- A ticket may be closed once it has an age. -/
def closesWithAge : Document where
  domains := ⟨[("it",
    { workflow := ⟨[("Raised", ["Closed"])], by decide⟩
      transitions :=
        [⟨"Raised", "Closed", [.ofField "age_days" ">=" (.number (Decimal.ofNat 0))]⟩] })],
    by decide⟩

/-- A ticket from the middle of the leap second at the end of 2016, half a second later. -/
def afterLeapSecond : Inquiry where
  ticket :=
    { Ticket.new .nil ⟨1483228799, 1500000000⟩ "it" "Raised" with
      target := some ⟨1483315200, 0⟩ }
  principal := RoleSet.anonymous.principal
  now := ⟨1483228800, 0⟩

/-- A second later, the ticket that could not be closed can be. -/
theorem shift_from_leapSecond_matters :
    ¬(build closesWithAge (Fingerprint.ofBytes [])).AnswersAlike afterLeapSecond
        (afterLeapSecond.shift Instant.nanosPerSecond) := by
  intro alike
  have refused : (build closesWithAge (Fingerprint.ofBytes [])).allows afterLeapSecond.ticket
      "Closed" afterLeapSecond.principal afterLeapSecond.now = false := by
    decide +kernel
  have allowed : (build closesWithAge (Fingerprint.ofBytes [])).allows
      (afterLeapSecond.shift Instant.nanosPerSecond).ticket "Closed"
      (afterLeapSecond.shift Instant.nanosPerSecond).principal
      (afterLeapSecond.shift Instant.nanosPerSecond).now = true := by
    decide +kernel
  rw [alike.allows "Closed", allowed] at refused
  cases refused

end Registry

end WorkflowGuard
