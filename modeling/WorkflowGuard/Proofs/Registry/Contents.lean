import Mathlib
import WorkflowGuard.Proofs.Document.Places
import WorkflowGuard.Proofs.Document.Validity
import WorkflowGuard.Proofs.Registry.Lookup

/-!
# What a built registry contains

A registry is built from any document, validated or not. This file says what it then holds
under every key, how many keys that are, and which rules were reported as broken.

The registry keeps the last rule of a key, so the keys are described through the places of the
document: a key is bound to the rule at the last place that has the key. From this it is plain
that a change of one rule reaches no other key. The counts and the reports do not go by
keys. They are taken over all places, the overwritten ones included.
-/

namespace WorkflowGuard

namespace DomainRules

/-- The list of rules splits at the last one that guards the edge. -/
theorem lastGuard?_eq_some_iff {rules : DomainRules} {source target : String}
    {rule : TransitionRule} :
    rules.lastGuard? source target = some rule ↔
      ∃ earlier later, rules.transitions = earlier ++ rule :: later ∧
        (rule.source = source ∧ rule.target = target) ∧
        ∀ other ∈ later, ¬(other.source = source ∧ other.target = target) := by
  rw [lastGuard?, List.findRev?_eq_find?_reverse, List.find?_eq_some_iff_append]
  constructor
  · rintro ⟨sameEdge, front, back, split, others⟩
    refine ⟨back.reverse, front.reverse, ?_, by simpa using sameEdge, ?_⟩
    · rw [List.reverse_eq_iff.mp split]
      simp
    · intro other member
      simpa [imp_iff_not_or] using others other (List.mem_reverse.mp member)
  · rintro ⟨earlier, later, split, sameEdge, others⟩
    refine ⟨by simpa using sameEdge, later.reverse, earlier.reverse, by simp [split], ?_⟩
    intro other member
    simpa [imp_iff_not_or] using others other (List.mem_reverse.mp member)

theorem lastGuard?_eq_some_iff_getElem? {rules : DomainRules} {source target : String}
    {rule : TransitionRule} :
    rules.lastGuard? source target = some rule ↔
      ∃ position : Nat, rules.transitions[position]? = some rule ∧
        (rule.source = source ∧ rule.target = target) ∧
        ∀ (later : Nat) other, position < later → rules.transitions[later]? = some other →
          ¬(other.source = source ∧ other.target = target) := by
  rw [lastGuard?_eq_some_iff]
  constructor
  · rintro ⟨front, back, split, sameEdge, others⟩
    refine ⟨front.length, by simp [split], sameEdge, ?_⟩
    intro later other after atLater
    rcases Nat.exists_eq_add_of_lt after with ⟨distance, rfl⟩
    apply others
    rw [split, List.getElem?_append_right (by omega)] at atLater
    apply List.mem_of_getElem? (i := distance)
    simpa [show front.length + distance + 1 - front.length = distance + 1 by omega] using atLater
  · rintro ⟨position, atPosition, sameEdge, others⟩
    rcases List.getElem?_eq_some_iff.mp atPosition with ⟨inRange, rfl⟩
    refine ⟨rules.transitions.take position, rules.transitions.drop (position + 1), by simp,
      sameEdge, ?_⟩
    intro other member
    rcases List.mem_iff_getElem?.mp member with ⟨distance, atDistance⟩
    rw [List.getElem?_drop] at atDistance
    exact others _ other (by omega) atDistance

end DomainRules

namespace Document

/-- The rule at a place has a key and descriptors, and no later place has the same key. -/
structure LastAt (document : Document) (place : RulePlace) (key : RuleKey)
    (conditions : List Descriptor) : Prop where
  present : document.ruleAt? place = some (key, conditions)
  last : ∀ later, place.Before later → (document.ruleAt? later).map Prod.fst ≠ some key

/-- The key of a rule in a group tells its place. -/
theorem lastAt_of_group {document : Document} {place : RulePlace} {domain group : String}
    {index : Nat} {conditions : List Descriptor}
    (present : document.ruleAt? place = some (.group domain group index, conditions)) :
    document.LastAt place (.group domain group index) conditions := by
  refine ⟨present, ?_⟩
  intro later before sameKey
  rcases Option.map_eq_some_iff.mp sameKey with ⟨⟨_, others⟩, laterPresent, rfl⟩
  rw [(ruleAt?_eq_group_iff.mp present).1, (ruleAt?_eq_group_iff.mp laterPresent).1] at before
  exact RulePlace.Before.irrefl _ before

/-- In a document that validates, the key of every rule tells its place. -/
theorem lastAt_of_validate {document : Document} (valid : document.validate.value = .ok ())
    {place : RulePlace} {key : RuleKey} {conditions : List Descriptor}
    (present : document.ruleAt? place = some (key, conditions)) :
    document.LastAt place key conditions := by
  cases key with
  | group domain group index => exact lastAt_of_group present
  | transition domain source target =>
      refine ⟨present, ?_⟩
      intro later before sameKey
      rcases Option.map_eq_some_iff.mp sameKey with ⟨⟨_, others⟩, laterPresent, rfl⟩
      rcases ruleAt?_eq_transition_iff.mp present with
        ⟨rules, position, rule, rfl, found, atPosition, rfl⟩
      rcases ruleAt?_eq_transition_iff.mp laterPresent with
        ⟨again, laterPosition, other, rfl, foundAgain, atLater, rfl⟩
      cases found.symm.trans foundAgain
      have distinct := edgesDistinct_of_validate valid found
      rw [DomainRules.EdgesDistinct, List.pairwise_iff_getElem] at distinct
      rcases List.getElem?_eq_some_iff.mp atPosition with ⟨inRange, atPosition⟩
      rcases List.getElem?_eq_some_iff.mp atLater with ⟨laterInRange, atLater⟩
      apply distinct position laterPosition inRange laterInRange
        (RulePlace.before_transition_iff.mp before)
      rw [atPosition, atLater]
      exact ⟨rfl, rfl⟩

end Document

namespace Registry

variable {document : Document} {fingerprint : Fingerprint}

/-- An edge is served by the last of its rules, and by nothing if it has none. -/
theorem find?_build_transition_eq_some_iff {domain source target : String}
    {predicate : Predicate} :
    (build document fingerprint).find? (.transition domain source target) = some predicate ↔
      ∃ rules earlier rule later, document.domains.find? domain = some rules ∧
        rules.transitions = earlier ++ rule :: later ∧
        (rule.source = source ∧ rule.target = target) ∧
        (∀ other ∈ later, ¬(other.source = source ∧ other.target = target)) ∧
        predicate = Predicate.compile rule.conditions := by
  rw [find?_build_transition, Option.bind_eq_some_iff]
  constructor
  · rintro ⟨rules, found, bound⟩
    rcases Option.map_eq_some_iff.mp bound with ⟨rule, isLast, rfl⟩
    rcases DomainRules.lastGuard?_eq_some_iff.mp isLast with
      ⟨earlier, later, split, sameEdge, others⟩
    exact ⟨rules, earlier, rule, later, found, split, sameEdge, others, rfl⟩
  · rintro ⟨rules, earlier, rule, later, found, split, sameEdge, others, rfl⟩
    refine ⟨rules, found, Option.map_eq_some_iff.mpr ⟨rule, ?_, rfl⟩⟩
    exact DomainRules.lastGuard?_eq_some_iff.mpr ⟨earlier, later, split, sameEdge, others⟩

theorem find?_build_group_eq_some_iff {domain group : String} {index : Nat}
    {predicate : Predicate} :
    (build document fingerprint).find? (.group domain group index) = some predicate ↔
      ∃ rules entries entry, document.domains.find? domain = some rules ∧
        rules.groups.find? group = some entries ∧ entries[index]? = some entry ∧
        predicate = Predicate.compile entry.conditions := by
  rw [find?_build_group]
  simp only [Option.bind_eq_some_iff, Option.map_eq_some_iff]
  constructor
  · rintro ⟨rules, found, entries, inGroup, entry, atIndex, rfl⟩
    exact ⟨rules, entries, entry, found, inGroup, atIndex, rfl⟩
  · rintro ⟨rules, entries, entry, found, inGroup, atIndex, rfl⟩
    exact ⟨rules, found, entries, inGroup, entry, atIndex, rfl⟩

/-- A key is bound to what the last place that has the key asks for. -/
theorem find?_build_eq_some_iff_lastAt {key : RuleKey} {predicate : Predicate} :
    (build document fingerprint).find? key = some predicate ↔
      ∃ place conditions, document.LastAt place key conditions ∧
        predicate = Predicate.compile conditions := by
  cases key with
  | transition domain source target =>
      rw [find?_build_transition, Option.bind_eq_some_iff]
      constructor
      · rintro ⟨rules, found, bound⟩
        rcases Option.map_eq_some_iff.mp bound with ⟨rule, isLast, rfl⟩
        rcases DomainRules.lastGuard?_eq_some_iff_getElem?.mp isLast with
          ⟨position, atPosition, ⟨rfl, rfl⟩, others⟩
        refine ⟨.transition domain position, rule.conditions, ⟨?_, ?_⟩, rfl⟩
        · exact Document.ruleAt?_eq_transition_iff.mpr
            ⟨rules, position, rule, rfl, found, atPosition, rfl⟩
        · intro place before sameKey
          -- A later place of this key would hold a later rule for this edge.
          rcases Option.map_eq_some_iff.mp sameKey with ⟨⟨_, conditions⟩, present, rfl⟩
          rcases Document.ruleAt?_eq_transition_iff.mp present with
            ⟨again, later, other, rfl, foundAgain, atLater, rfl⟩
          cases found.symm.trans foundAgain
          exact others later _ (RulePlace.before_transition_iff.mp before) atLater ⟨rfl, rfl⟩
      · rintro ⟨place, conditions, ⟨present, last⟩, rfl⟩
        rcases Document.ruleAt?_eq_transition_iff.mp present with
          ⟨rules, position, rule, rfl, found, atPosition, rfl⟩
        refine ⟨rules, found, Option.map_eq_some_iff.mpr ⟨⟨source, target, conditions⟩, ?_, rfl⟩⟩
        refine DomainRules.lastGuard?_eq_some_iff_getElem?.mpr
          ⟨position, atPosition, ⟨rfl, rfl⟩, ?_⟩
        rintro later ⟨otherSource, otherTarget, others⟩ after atLater ⟨rfl, rfl⟩
        apply last (.transition domain later) (RulePlace.before_transition_iff.mpr after)
        rw [Document.ruleAt?_eq_transition_iff.mpr ⟨rules, later, _, rfl, found, atLater, rfl⟩]
        rfl
  | group domain group index =>
      rw [find?_build_group_eq_some_iff]
      constructor
      · rintro ⟨rules, entries, entry, found, inGroup, atIndex, rfl⟩
        refine ⟨.group domain group index, entry.conditions, ?_, rfl⟩
        apply Document.lastAt_of_group
        exact Document.ruleAt?_eq_group_iff.mpr
          ⟨rfl, rules, entries, entry, found, inGroup, atIndex, rfl⟩
      · rintro ⟨place, conditions, ⟨present, _⟩, rfl⟩
        rcases Document.ruleAt?_eq_group_iff.mp present with
          ⟨rfl, rules, entries, entry, found, inGroup, atIndex, rfl⟩
        exact ⟨rules, entries, entry, found, inGroup, atIndex, rfl⟩

end Registry

section Counting

namespace Document

/-- A validated document has no two rules of one key. -/
theorem nodup_keys_of_validate {document : Document}
    (valid : document.validate.value = .ok ()) : (document.keyedRules.map Prod.fst).Nodup := by
  have atPlaces : document.places.map (fun place => (document.ruleAt? place).map Prod.fst) =
      (document.keyedRules.map Prod.fst).map some := by
    rw [List.map_map, ← Function.comp_def, ← List.map_map, document.map_ruleAt?_places,
      List.map_map]
    rfl
  refine List.Nodup.of_map some ?_
  rw [← atPlaces, List.Nodup, List.pairwise_map]
  refine document.places_pairwise.imp_of_mem ?_
  intro place later member _ before sameKey
  rcases Option.isSome_iff_exists.mp (mem_places_iff.mp member) with ⟨⟨key, conditions⟩, present⟩
  rw [present] at sameKey
  exact (lastAt_of_validate valid present).last later before sameKey.symm

end Document

namespace Registry

variable (document : Document) (fingerprint : Fingerprint)

/-- The statistics count domains, rules and rejections of the document. -/
theorem stats_build :
    (build document fingerprint).stats =
      ⟨document.domains.size, document.ruleCount, document.rejectedRules.length⟩ := by
  have covers := document.covers_draft
  rw [← document.length_keyedRules, ← covers.domains, ← covers.counted,
    Document.rejectedRules, ← covers.rejected]
  rfl

theorem size_build_le : (build document fingerprint).size ≤ document.ruleCount := by
  rw [← document.length_keyedRules]
  exact document.covers_draft.size_le

/-- In an accepted document every rule has a key of its own. -/
theorem size_build_of_validate {document : Document}
    (valid : document.validate.value = .ok ()) :
    (build document fingerprint).size = document.ruleCount := by
  rw [← document.length_keyedRules]
  exact document.covers_draft.size_eq (document.nodup_keys_of_validate valid)

end Registry

end Counting

section Reports

namespace Document

/-- The rule at a place cannot be compiled. -/
def RejectedAt (document : Document) (place : RulePlace) : Prop :=
  ∃ key conditions error, document.ruleAt? place = some (key, conditions) ∧
    Predicate.compile? conditions = .error error

/-- The event is an error that names the key of the rule at a place and the fault in it. -/
def ReportedBy (document : Document) (place : RulePlace) (event : Event) : Prop :=
  ∃ key conditions error, document.ruleAt? place = some (key, conditions) ∧
    Predicate.compile? conditions = .error error ∧
    event = .keyedRuleDenied key error ∧ event.level = .error

/-- The key and the fault of the rule at a place, if it has a fault. -/
def rejection? (document : Document) (place : RulePlace) : Option (RuleKey × RuleError) :=
  (document.ruleAt? place).bind KeyedRule.rejection?

variable {document : Document}

theorem rejection?_eq_some_iff {place : RulePlace} {key : RuleKey} {error : RuleError} :
    document.rejection? place = some (key, error) ↔
      ∃ conditions, document.ruleAt? place = some (key, conditions) ∧
        Predicate.compile? conditions = .error error := by
  rw [rejection?, Option.bind_eq_some_iff]
  constructor
  · rintro ⟨⟨other, conditions⟩, present, rejected⟩
    cases compiled : Predicate.compile? conditions with
    | ok predicate => simp [KeyedRule.rejection?, compiled] at rejected
    | error fault =>
        simp only [KeyedRule.rejection?, compiled, Option.some.injEq, Prod.mk.injEq] at rejected
        rcases rejected with ⟨rfl, rfl⟩
        exact ⟨conditions, present, compiled⟩
  · rintro ⟨conditions, present, compiled⟩
    exact ⟨(key, conditions), present, by simp [KeyedRule.rejection?, compiled]⟩

theorem rejectedAt_iff {place : RulePlace} :
    document.RejectedAt place ↔ (document.rejection? place).isSome = true := by
  rw [Option.isSome_iff_exists, RejectedAt]
  constructor
  · rintro ⟨key, conditions, error, rejected⟩
    exact ⟨(key, error), rejection?_eq_some_iff.mpr ⟨conditions, rejected⟩⟩
  · rintro ⟨⟨key, error⟩, rejected⟩
    rcases rejection?_eq_some_iff.mp rejected with ⟨conditions, present, compiled⟩
    exact ⟨key, conditions, error, present, compiled⟩

/-- Rejections are reported in the order of the places. -/
theorem rejectedRules_eq_filterMap_places :
    document.rejectedRules = document.places.filterMap document.rejection? := by
  have visited : (document.places.map document.ruleAt?).filterMap id = document.keyedRules := by
    rw [map_ruleAt?_places]
    simp
  rw [rejectedRules, KeyedRule.rejections, ← visited, List.filterMap_filterMap,
    List.filterMap_map]
  rfl

end Document

theorem forall₂_filter_filterMap {α β : Type} (f : α → Option β) (list : List α) :
    List.Forall₂ (fun item result => f item = some result)
      (list.filter fun item => (f item).isSome) (list.filterMap f) := by
  induction list with
  | nil => exact .nil
  | cons head rest ih =>
      cases applied : f head with
      | none => simpa [applied] using ih
      | some result => simpa [applied] using ih

namespace Document

variable {document : Document}

/-- The places of the rules that cannot be compiled, in order. -/
def rejectedPlaces (document : Document) : List RulePlace :=
  document.places.filter fun place => (document.rejection? place).isSome

theorem rejectedPlaces_pairwise : document.rejectedPlaces.Pairwise RulePlace.Before :=
  document.places_pairwise.filter _

theorem mem_rejectedPlaces_iff {place : RulePlace} :
    place ∈ document.rejectedPlaces ↔ document.RejectedAt place := by
  rw [rejectedPlaces, List.mem_filter, mem_places_iff, rejectedAt_iff]
  simp only [rejection?]
  cases document.ruleAt? place with
  | none => simp
  | some rule => simp

theorem length_rejectedPlaces :
    document.rejectedPlaces.length = document.rejectedRules.length := by
  have paired := forall₂_filter_filterMap document.rejection? document.places
  rw [rejectedPlaces, paired.length_eq, ← rejectedRules_eq_filterMap_places]

end Document

namespace Registry

/-- The rejected rules are reported one by one in the order of their places. -/
theorem events_buildLogged (document : Document) (fingerprint : Fingerprint) :
    List.Forall₂ document.ReportedBy document.rejectedPlaces
      (buildLogged document fingerprint).events := by
  have reported : (buildLogged document fingerprint).events =
      document.rejectedRules.map KeyedRule.report :=
    document.covers_draft.reported
  rw [reported, Document.rejectedRules_eq_filterMap_places, List.forall₂_map_right_iff]
  apply (forall₂_filter_filterMap document.rejection? document.places).imp
  rintro place ⟨key, error⟩ rejected
  rcases Document.rejection?_eq_some_iff.mp rejected with ⟨conditions, present, compiled⟩
  exact ⟨key, conditions, error, present, compiled, rfl, rfl⟩

/-- As many rules have failed as there are places of rejected rules. -/
theorem failedRules_buildLogged (document : Document) (fingerprint : Fingerprint) :
    (buildLogged document fingerprint).value.stats.failedRules =
      document.rejectedPlaces.length := by
  rw [Document.length_rejectedPlaces]
  exact congrArg Stats.failedRules (stats_build document fingerprint)

end Registry

end Reports

namespace Registry

/-- What a registry holds under every key, how much that is, and what was reported while it
was built. -/
structure Represents (document : Document) (logged : Logged Registry) : Prop where
  /-- An edge is bound to the last rule that guards it. -/
  transition : ∀ domain source target predicate,
    logged.value.find? (.transition domain source target) = some predicate ↔
      ∃ rules earlier rule later, document.domains.find? domain = some rules ∧
        rules.transitions = earlier ++ rule :: later ∧
        (rule.source = source ∧ rule.target = target) ∧
        (∀ other ∈ later, ¬(other.source = source ∧ other.target = target)) ∧
        predicate = Predicate.compile rule.conditions
  /-- A position of a group is bound to the entry there. -/
  group : ∀ domain group index predicate,
    logged.value.find? (.group domain group index) = some predicate ↔
      ∃ rules entries entry, document.domains.find? domain = some rules ∧
        rules.groups.find? group = some entries ∧ entries[index]? = some entry ∧
        predicate = Predicate.compile entry.conditions
  /-- A bound key is looked up as it is bound. -/
  bound : ∀ key predicate, logged.value.find? key = some predicate →
    logged.value.lookup key = predicate
  /-- An unbound key is looked up as the fixed answer for its sort. -/
  unbound : ∀ key, logged.value.find? key = none →
    logged.value.lookup key = .constant (document.policies.of key.kind).permits
  domains : logged.value.stats.domains = document.domains.size
  /-- All rules are counted, also those that are overwritten. -/
  rules : logged.value.stats.rules = document.ruleCount ∧
    ∃ places : List RulePlace, places.Pairwise RulePlace.Before ∧
      (∀ place, place ∈ places ↔ (document.ruleAt? place).isSome = true) ∧
      logged.value.stats.rules = places.length
  /-- The rejected rules are counted, and reported one by one in the order of their places. -/
  rejected : ∃ places : List RulePlace, places.Pairwise RulePlace.Before ∧
    (∀ place, place ∈ places ↔ document.RejectedAt place) ∧
    logged.value.stats.failedRules = places.length ∧
    List.Forall₂ document.ReportedBy places logged.events
  /-- The size counts the bound keys. -/
  keys : ∃ keys : List RuleKey, keys.Nodup ∧
    (∀ key, key ∈ keys ↔ logged.value.contains key = true) ∧ logged.value.size = keys.length
  size_le : logged.value.size ≤ logged.value.stats.rules
  size_eq : document.validate.value = .ok () → logged.value.size = logged.value.stats.rules
  /-- Another document with other descriptors in one rule differs at most under its key. -/
  local_change : ∀ (other : Document) (otherFingerprint : Fingerprint) (changed : RulePlace),
    other.policies = document.policies →
    (∀ place, (other.ruleAt? place).map Prod.fst = (document.ruleAt? place).map Prod.fst) →
    (∀ place, place ≠ changed → other.ruleAt? place = document.ruleAt? place) →
      ∀ key, (document.ruleAt? changed).map Prod.fst ≠ some key →
        (build other otherFingerprint).find? key = logged.value.find? key ∧
        (build other otherFingerprint).lookup key = logged.value.lookup key

theorem lookup_of_find? {registry : Registry} {key : RuleKey} {predicate : Predicate}
    (found : registry.find? key = some predicate) : registry.lookup key = predicate := by
  rw [lookup, found, Option.getD_some]

theorem lookup_of_find?_none {registry : Registry} {key : RuleKey}
    (missing : registry.find? key = none) :
    registry.lookup key = .constant (registry.policies.of key.kind).permits := by
  rw [lookup, missing, Option.getD_none, defaultFor]

/-- Descriptors at other places of the same keys do not matter to the last place of a key. -/
theorem lastAt_of_changed {document other : Document} {changed : RulePlace}
    (sameKeys : ∀ place,
      (other.ruleAt? place).map Prod.fst = (document.ruleAt? place).map Prod.fst)
    (sameRules : ∀ place, place ≠ changed → other.ruleAt? place = document.ruleAt? place)
    {key : RuleKey} (elsewhere : (document.ruleAt? changed).map Prod.fst ≠ some key)
    {place : RulePlace} {conditions : List Descriptor} :
    other.LastAt place key conditions ↔ document.LastAt place key conditions := by
  have samePresence : other.ruleAt? place = some (key, conditions) ↔
      document.ruleAt? place = some (key, conditions) := by
    -- The changed place has another key in both documents, so it is not the place in question.
    rcases Decidable.em (place = changed) with rfl | unchanged
    · constructor
      · intro present
        apply absurd _ elsewhere
        rw [← sameKeys, present]
        rfl
      · intro present
        apply absurd _ elsewhere
        rw [present]
        rfl
    · rw [sameRules place unchanged]
  constructor
  · rintro ⟨present, last⟩
    refine ⟨samePresence.mp present, ?_⟩
    intro later before
    rw [← sameKeys]
    exact last later before
  · rintro ⟨present, last⟩
    refine ⟨samePresence.mpr present, ?_⟩
    intro later before
    rw [sameKeys]
    exact last later before

/-- A change to one rule is not seen under any other key. -/
theorem find?_build_of_changed {document other : Document} {changed : RulePlace}
    (sameKeys : ∀ place,
      (other.ruleAt? place).map Prod.fst = (document.ruleAt? place).map Prod.fst)
    (sameRules : ∀ place, place ≠ changed → other.ruleAt? place = document.ruleAt? place)
    {key : RuleKey} (elsewhere : (document.ruleAt? changed).map Prod.fst ≠ some key)
    (left right : Fingerprint) :
    (build other left).find? key = (build document right).find? key := by
  apply Option.ext
  intro predicate
  rw [find?_build_eq_some_iff_lastAt, find?_build_eq_some_iff_lastAt]
  simp only [lastAt_of_changed sameKeys sameRules elsewhere]

theorem lookup_build_of_changed {document other : Document} {changed : RulePlace}
    (samePolicies : other.policies = document.policies)
    (sameKeys : ∀ place,
      (other.ruleAt? place).map Prod.fst = (document.ruleAt? place).map Prod.fst)
    (sameRules : ∀ place, place ≠ changed → other.ruleAt? place = document.ruleAt? place)
    {key : RuleKey} (elsewhere : (document.ruleAt? changed).map Prod.fst ≠ some key)
    (left right : Fingerprint) :
    (build other left).lookup key = (build document right).lookup key := by
  have sameDefault : (build other left).defaultFor key.kind =
      (build document right).defaultFor key.kind := by
    simp only [defaultFor, build, buildLogged, samePolicies]
  rw [lookup, find?_build_of_changed sameKeys sameRules elsewhere left right, sameDefault]
  rfl

/-- The registry that is built from any document, and the reports made on the way, represent
that document. -/
theorem buildLogged_represents (document : Document) (fingerprint : Fingerprint) :
    Represents document (buildLogged document fingerprint) := by
  have stats : (buildLogged document fingerprint).value.stats =
      ⟨document.domains.size, document.ruleCount, document.rejectedRules.length⟩ :=
    stats_build document fingerprint
  constructor
  case transition =>
    intro domain source target predicate
    exact find?_build_transition_eq_some_iff
  case group =>
    intro domain group index predicate
    exact find?_build_group_eq_some_iff
  case bound =>
    intro key predicate found
    exact lookup_of_find? found
  case unbound =>
    intro key missing
    exact lookup_of_find?_none missing
  case domains => rw [stats]
  case rules =>
    refine ⟨by rw [stats], document.places, document.places_pairwise, ?_, ?_⟩
    · intro place
      exact Document.mem_places_iff
    · rw [stats, document.length_places]
  case rejected =>
    refine ⟨document.rejectedPlaces, Document.rejectedPlaces_pairwise, ?_,
      failedRules_buildLogged document fingerprint, events_buildLogged document fingerprint⟩
    intro place
    exact Document.mem_rejectedPlaces_iff
  case keys =>
    let table := (buildLogged document fingerprint).value.rules
    exact ⟨table.keys, table.distinct, fun key => RuleTable.mem_keys_iff,
      (List.length_map Prod.fst).symm⟩
  case size_le =>
    rw [stats]
    exact size_build_le document fingerprint
  case size_eq =>
    intro valid
    rw [stats]
    exact size_build_of_validate fingerprint valid
  case local_change =>
    intro other otherFingerprint changed samePolicies sameKeys sameRules key elsewhere
    exact ⟨find?_build_of_changed sameKeys sameRules elsewhere otherFingerprint fingerprint,
      lookup_build_of_changed samePolicies sameKeys sameRules elsewhere otherFingerprint
        fingerprint⟩

end Registry

end WorkflowGuard
