import WorkflowGuard.Proofs.Registry.Contents
import WorkflowGuard.Proofs.Rule.Composition
import WorkflowGuard.Proofs.Rule.Faults

/-!
# Rules with an unknown operator

An operator that cannot be read makes its whole rule deny. It does not matter where in the rule
its descriptor stands, what else the rule asks for, or what other faults it has: the rule is
counted and reported as broken, it is served as a rule that denies everybody, and no other rule
notices.

This is so because a fault of one descriptor is a fault of every rule that has the descriptor.
There is one sort of descriptor to which the argument does not apply. An operator is read when
there is a field to apply it to, so a descriptor that names a role and no field compiles to the
role whatever its operator is, and the rule grants to those who have the role. A descriptor that
names neither, or a blank role, is faulty for that reason.
-/

namespace WorkflowGuard

namespace Descriptor

variable {descriptor : Descriptor}

/-- The descriptor asks for a role and names no field that its operator could apply to. -/
def AsksRoleAlone (descriptor : Descriptor) : Prop :=
  descriptor.field = none ∧ ∃ role, descriptor.role = some role ∧ ¬Text.Blank role

/-- A descriptor with an unknown operator is refused, unless it asks for a role alone. -/
theorem compile?_of_unknownOperator {text : String} (written : descriptor.operator = some text)
    (unknown : Operator.read? text = none) (notAlone : ¬descriptor.AsksRoleAlone) :
    ∃ error, Predicate.compile? [descriptor] = .error error := by
  cases named : descriptor.field with
  | some field =>
      have fault : descriptor.Fault field 0 2 _ :=
        .unknownOperator written (Operator.read?_eq_none_iff.mp unknown)
      exact fault.compile?_eq_error named
  | none =>
      cases given : descriptor.role with
      | none =>
          refine ⟨.emptyCondition 0, ?_⟩
          simp only [Predicate.compile?, allConditions, conditions, given, named]
          rfl
      | some role =>
          have blank : Text.Blank role := by
            apply Classical.byContradiction
            intro notBlank
            exact notAlone ⟨named, role, given, notBlank⟩
          refine ⟨.blankName 0 "role", ?_⟩
          simp only [Predicate.compile?, allConditions, conditions, roleConditions, given, named,
            Text.isBlank_iff.mpr blank]
          rfl

end Descriptor

/-- A fault of one descriptor is a fault of every rule that has the descriptor. -/
theorem Predicate.compile?_of_mem {descriptor : Descriptor} {descriptors : List Descriptor}
    (member : descriptor ∈ descriptors) (faulty : ∃ error, compile? [descriptor] = .error error) :
    ∃ error, compile? descriptors = .error error := by
  rcases List.append_of_mem member with ⟨earlier, later, rfl⟩
  rcases faulty with ⟨fault, failed⟩
  cases compiled : compile? (earlier ++ descriptor :: later) with
  | error error => exact ⟨error, rfl⟩
  | ok whole =>
      rcases (conjoins earlier _).compiles_iff.mp ⟨whole, compiled⟩ with ⟨_, tail⟩
      rw [← List.singleton_append] at tail
      rcases (conjoins [descriptor] later).compiles_iff.mp tail with ⟨⟨alone, compiledAlone⟩, _⟩
      rw [failed] at compiledAlone
      cases compiledAlone

namespace Registry

/-- The rule at a place is broken and denies, and nothing else is affected. -/
structure FailsClosed (document : Document) (logged : Logged Registry) (place : RulePlace)
    (key : RuleKey) (conditions : List Descriptor) : Prop where
  /-- The rule is one of those that are counted as broken. -/
  counted : ∃ places : List RulePlace, places.Pairwise RulePlace.Before ∧
    (∀ other, other ∈ places ↔ document.RejectedAt other) ∧
    logged.value.stats.failedRules = places.length ∧ place ∈ places
  reported : ∃ event ∈ logged.events, document.ReportedBy place event
  denies : ∀ ticket principal now,
    (Predicate.compile conditions).holds ticket principal now = false
  /-- The rule is served under its key, unless another rule of the key overwrites it. -/
  served : document.LastAt place key conditions →
    logged.value.find? key = some (Predicate.compile conditions) ∧
      ∀ ticket principal now, (logged.value.lookup key).holds ticket principal now = false
  /-- No group rule is overwritten, nor any rule of a document that validates. -/
  unique : key.kind = .group ∨ document.validate.value = .ok () →
    document.LastAt place key conditions
  /-- With other descriptors in the rule, all other keys would be answered the same. -/
  elsewhere : ∀ (other : Document) (otherFingerprint : Fingerprint),
    other.policies = document.policies →
    (∀ otherPlace,
      (other.ruleAt? otherPlace).map Prod.fst = (document.ruleAt? otherPlace).map Prod.fst) →
    (∀ otherPlace, otherPlace ≠ place → other.ruleAt? otherPlace = document.ruleAt? otherPlace) →
      ∀ otherKey, otherKey ≠ key →
        (build other otherFingerprint).find? otherKey = logged.value.find? otherKey ∧
        (build other otherFingerprint).lookup otherKey = logged.value.lookup otherKey

variable {document : Document} {place : RulePlace} {key : RuleKey}
  {conditions : List Descriptor}

/-- Every rule that does not compile fails closed. -/
theorem failsClosed_of_compile? (fingerprint : Fingerprint)
    (present : document.ruleAt? place = some (key, conditions))
    (rejected : ∃ error, Predicate.compile? conditions = .error error) :
    FailsClosed document (buildLogged document fingerprint) place key conditions := by
  rcases rejected with ⟨error, failed⟩
  have member : place ∈ document.rejectedPlaces :=
    Document.mem_rejectedPlaces_iff.mpr ⟨key, conditions, error, present, failed⟩
  have denies : ∀ ticket principal now,
      (Predicate.compile conditions).holds ticket principal now = false := by
    intro ticket principal now
    exact Predicate.holds_compile_of_error ticket principal now failed
  constructor
  case counted =>
    exact ⟨document.rejectedPlaces, Document.rejectedPlaces_pairwise,
      fun _ => Document.mem_rejectedPlaces_iff, failedRules_buildLogged document fingerprint,
      member⟩
  case reported =>
    -- Reports and rejected places are listed side by side, so the report has the same position.
    rcases List.forall₂_iff_get.mp (events_buildLogged document fingerprint) with
      ⟨sameLength, reports⟩
    rcases List.mem_iff_get.mp member with ⟨⟨position, inRange⟩, rfl⟩
    have inEvents : position < (buildLogged document fingerprint).events.length := by
      rwa [← sameLength]
    exact ⟨_, List.get_mem _ ⟨position, inEvents⟩, reports position inRange inEvents⟩
  case denies => exact denies
  case served =>
    intro last
    have bound : (build document fingerprint).find? key =
        some (Predicate.compile conditions) :=
      find?_build_eq_some_iff_lastAt.mpr ⟨place, conditions, last, rfl⟩
    refine ⟨bound, ?_⟩
    intro ticket principal now
    have answered : (build document fingerprint).lookup key = Predicate.compile conditions :=
      lookup_of_find? bound
    exact (congrArg (·.holds ticket principal now) answered).trans (denies ticket principal now)
  case unique =>
    rintro (ofGroup | valid)
    · cases key with
      | transition domain source target => cases ofGroup
      | group domain group index => exact Document.lastAt_of_group present
    · exact Document.lastAt_of_validate valid present
  case elsewhere =>
    intro other otherFingerprint samePolicies sameKeys sameRules otherKey different
    have notThere : (document.ruleAt? place).map Prod.fst ≠ some otherKey := by
      rw [present]
      rintro ⟨⟩
      exact different rfl
    exact ⟨find?_build_of_changed sameKeys sameRules notThere otherFingerprint fingerprint,
      lookup_build_of_changed samePolicies sameKeys sameRules notThere otherFingerprint
        fingerprint⟩

/-- A rule fails closed if the operator of one of its descriptors is unknown, unless that
descriptor asks for a role alone. -/
theorem failsClosed_of_unknownOperator {descriptor : Descriptor} {text : String}
    (fingerprint : Fingerprint) (present : document.ruleAt? place = some (key, conditions))
    (member : descriptor ∈ conditions) (written : descriptor.operator = some text)
    (unknown : Operator.read? text = none) (notAlone : ¬descriptor.AsksRoleAlone) :
    FailsClosed document (buildLogged document fingerprint) place key conditions := by
  have faulty := Descriptor.compile?_of_unknownOperator written unknown notAlone
  exact failsClosed_of_compile? fingerprint present (Predicate.compile?_of_mem member faulty)

/-- A ticket may be closed on the given conditions. -/
def closesIf (conditions : List Descriptor) : Document where
  domains := ⟨[("it",
    { workflow := ⟨[("Waiting", ["Closed"])], by decide⟩
      transitions := [⟨"Waiting", "Closed", conditions⟩] })], List.pairwise_singleton _ _⟩

/-- An administrator may close an old ticket, but the comparison is misspelled. -/
def oldWithMisspelling : Descriptor where
  role := some "Admin"
  field := some "age_days"
  operator := some "=>"
  value := some (.text "30")

theorem failsClosed_oldWithMisspelling :
    FailsClosed (closesIf [oldWithMisspelling])
      (buildLogged (closesIf [oldWithMisspelling]) (Fingerprint.ofBytes []))
      (.transition "it" 0) (.transition "it" "Waiting" "Closed") [oldWithMisspelling] := by
  refine failsClosed_of_unknownOperator (Fingerprint.ofBytes []) rfl List.mem_cons_self rfl
    (by decide +kernel) ?_
  rintro ⟨unnamed, _⟩
  cases unnamed

/-- An administrator may close a ticket; there is nothing for the operator to compare. -/
def adminWithOperator : Descriptor where
  role := some "Admin"
  operator := some "~"

/-- With a role alone, the unknown operator goes unnoticed and the rule grants. -/
theorem grants_adminWithOperator :
    (closesIf [adminWithOperator]).validate.value = .ok () ∧
      (closesIf [adminWithOperator]).ruleAt? (.transition "it" 0) =
        some (.transition "it" "Waiting" "Closed", [adminWithOperator]) ∧
      adminWithOperator.operator = some "~" ∧ Operator.read? "~" = none ∧
      (build (closesIf [adminWithOperator]) (Fingerprint.ofBytes [])).stats.failedRules = 0 ∧
      ((build (closesIf [adminWithOperator]) (Fingerprint.ofBytes [])).lookup
        (.transition "it" "Waiting" "Closed")).holds (Ticket.new .nil ⟨0, 0⟩ "it" "Waiting")
          (RoleSet.ofNames ["Admin"]).principal ⟨0, 0⟩ = true := by
  refine ⟨by decide +kernel, rfl, rfl, by decide +kernel, by decide +kernel, by decide +kernel⟩

end Registry

end WorkflowGuard
