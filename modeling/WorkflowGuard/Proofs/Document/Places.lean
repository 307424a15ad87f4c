import Mathlib.Data.List.Basic
import WorkflowGuard.Document

/-!
# The places of the rules in a document

A key does not always tell the rules of a document apart, for a document that was not validated
may have several transition rules of one edge. A place does: it names the domain and counts the
rules from the front. Places have an order of their own, in which a document is walked, and
this file shows that the list of all rules visits every place once and in that order.
-/

namespace WorkflowGuard

/-- Where a rule stands in a document. -/
inductive RulePlace where
  | transition (domain : String) (position : Nat)
  | group (domain group : String) (position : Nat)
  deriving DecidableEq

namespace RulePlace

def domain : RulePlace → String
  | transition domain _ => domain
  | group domain _ _ => domain

/-- The order inside one domain: transitions by position, then groups by name, each by
position. -/
def Precedes : RulePlace → RulePlace → Prop
  | transition _ left, transition _ right => left < right
  | transition .., group .. => True
  | group .., transition .. => False
  | group _ leftGroup left, group _ rightGroup right =>
      leftGroup < rightGroup ∨ leftGroup = rightGroup ∧ left < right

/-- The order of places: by domain, then inside the domain. -/
def Before (left right : RulePlace) : Prop :=
  left.domain < right.domain ∨ left.domain = right.domain ∧ left.Precedes right

theorem Before.irrefl (place : RulePlace) : ¬place.Before place := by
  cases place <;> simp [Before, Precedes]

theorem before_transition_iff {domain : String} {left right : Nat} :
    (transition domain left).Before (transition domain right) ↔ left < right := by
  simp [Before, RulePlace.domain, Precedes]

end RulePlace

namespace DomainRules

def transitionPlaces (domain : String) (rules : DomainRules) : List RulePlace :=
  (List.range rules.transitions.length).map (.transition domain)

def groupPlaces (domain : String) (rules : DomainRules) : List RulePlace :=
  rules.groups.entries.flatMap fun (group, entries) =>
    (List.range entries.length).map (.group domain group)

/-- The places of the rules of a domain, in order. -/
def places (domain : String) (rules : DomainRules) : List RulePlace :=
  rules.transitionPlaces domain ++ rules.groupPlaces domain

/-- The key and the descriptors of the rule at a place. -/
def ruleAt? (rules : DomainRules) : RulePlace → Option (RuleKey × List Descriptor)
  | .transition domain position =>
      rules.transitions[position]?.map fun rule =>
        (.transition domain rule.source rule.target, rule.conditions)
  | .group domain group position =>
      (rules.groups.find? group).bind fun entries =>
        entries[position]?.map fun entry => (.group domain group position, entry.conditions)

variable {domain : String} {rules : DomainRules}

theorem mem_transitionPlaces_iff {place : RulePlace} :
    place ∈ rules.transitionPlaces domain ↔
      ∃ position, position < rules.transitions.length ∧ place = .transition domain position := by
  simp only [transitionPlaces, List.mem_map, List.mem_range, eq_comm]

theorem mem_groupPlaces_iff {place : RulePlace} :
    place ∈ rules.groupPlaces domain ↔
      ∃ group entries position, rules.groups.find? group = some entries ∧
        position < entries.length ∧ place = .group domain group position := by
  simp only [groupPlaces, List.mem_flatMap, List.mem_map, List.mem_range, Prod.exists,
    Dict.find?_eq_some_iff]
  constructor
  · rintro ⟨group, entries, member, position, inRange, rfl⟩
    exact ⟨group, entries, position, member, inRange, rfl⟩
  · rintro ⟨group, entries, position, member, inRange, rfl⟩
    exact ⟨group, entries, member, position, inRange, rfl⟩

/-- The listed places of a domain are those where it has a rule. -/
theorem mem_places_iff {place : RulePlace} :
    place ∈ rules.places domain ↔
      place.domain = domain ∧ (rules.ruleAt? place).isSome = true := by
  rw [places, List.mem_append, mem_transitionPlaces_iff, mem_groupPlaces_iff]
  constructor
  · rintro (⟨position, inRange, rfl⟩ | ⟨group, entries, position, found, inRange, rfl⟩)
    · exact ⟨rfl, by simp [ruleAt?, inRange]⟩
    · exact ⟨rfl, by simp [ruleAt?, found, inRange]⟩
  · rintro ⟨rfl, present⟩
    cases place with
    | transition domain position =>
        left
        exact ⟨position, by simpa [ruleAt?] using present, rfl⟩
    | group domain group position =>
        right
        cases found : rules.groups.find? group with
        | none => simp [ruleAt?, found] at present
        | some entries =>
            refine ⟨group, entries, position, found, ?_, rfl⟩
            simpa [ruleAt?, found] using present

theorem domain_of_mem_places {place : RulePlace} (member : place ∈ rules.places domain) :
    place.domain = domain :=
  (mem_places_iff.mp member).1

/-- Transitions are listed by ascending position. -/
theorem transitionPlaces_pairwise : (rules.transitionPlaces domain).Pairwise RulePlace.Before := by
  rw [transitionPlaces, List.pairwise_map]
  apply List.pairwise_lt_range.imp
  intro left right before
  exact Or.inr ⟨rfl, before⟩

theorem groupPlaces_pairwise : (rules.groupPlaces domain).Pairwise RulePlace.Before := by
  rw [groupPlaces, List.pairwise_flatMap]
  constructor
  · rintro ⟨group, entries⟩ _
    rw [List.pairwise_map]
    apply List.pairwise_lt_range.imp
    intro left right before
    exact Or.inr ⟨rfl, Or.inr ⟨rfl, before⟩⟩
  · apply rules.groups.sorted.imp
    rintro ⟨leftGroup, leftEntries⟩ ⟨rightGroup, rightEntries⟩ before left leftMem right rightMem
    rcases List.mem_map.mp leftMem with ⟨leftPosition, _, rfl⟩
    rcases List.mem_map.mp rightMem with ⟨rightPosition, _, rfl⟩
    exact Or.inr ⟨rfl, Or.inl before⟩

/-- In a domain the transitions come before the groups. -/
theorem places_pairwise : (rules.places domain).Pairwise RulePlace.Before := by
  rw [places, List.pairwise_append]
  refine ⟨transitionPlaces_pairwise, groupPlaces_pairwise, ?_⟩
  intro left leftMem right rightMem
  rcases mem_transitionPlaces_iff.mp leftMem with ⟨leftPosition, _, rfl⟩
  rcases mem_groupPlaces_iff.mp rightMem with ⟨group, entries, rightPosition, _, _, rfl⟩
  exact Or.inr ⟨rfl, trivial⟩

/-- There is one place per rule, whether or not keys are shared. -/
theorem length_places : (rules.places domain).length = rules.ruleCount := by
  simp [places, transitionPlaces, groupPlaces, ruleCount, Dict.values, total,
    List.length_flatMap, List.sum]
  rfl

/-- The rules at the listed places are the keyed rules, in the same order. -/
theorem map_ruleAt?_places :
    (rules.places domain).map rules.ruleAt? = (rules.keyed domain).map some := by
  rw [keyed, places, List.map_append, List.map_append]
  congr 1
  · rw [transitionPlaces, List.map_map]
    apply List.ext_getElem
    · simp
    · intro position inRange _
      have inList : position < rules.transitions.length := by simpa using inRange
      simp [ruleAt?, inList]
  · rw [groupPlaces, List.map_flatMap, List.map_flatMap]
    apply List.flatMap_congr
    rintro ⟨group, entries⟩ member
    have found := Dict.find?_eq_some_iff.mpr member
    apply List.ext_getElem
    · simp
    · intro position inRange _
      have inList : position < entries.length := by simpa using inRange
      simp [ruleAt?, found, inList]

end DomainRules

namespace Document

/-- The places of all rules, in order. -/
def places (document : Document) : List RulePlace :=
  document.domains.entries.flatMap fun (domain, rules) => rules.places domain

def ruleAt? (document : Document) (place : RulePlace) : Option (RuleKey × List Descriptor) :=
  (document.domains.find? place.domain).bind fun rules => rules.ruleAt? place

variable {document : Document}

/-- A rule has a transition key just when it is a transition rule of that domain with that edge. -/
theorem ruleAt?_eq_transition_iff {place : RulePlace} {domain source target : String}
    {conditions : List Descriptor} :
    document.ruleAt? place = some (.transition domain source target, conditions) ↔
      ∃ rules position rule, place = .transition domain position ∧
        document.domains.find? domain = some rules ∧
        rules.transitions[position]? = some rule ∧
        rule = ⟨source, target, conditions⟩ := by
  rw [ruleAt?, Option.bind_eq_some_iff]
  cases place with
  | transition other position =>
      simp only [RulePlace.domain, DomainRules.ruleAt?, Option.map_eq_some_iff, Prod.mk.injEq,
        RuleKey.transition.injEq]
      constructor
      · rintro ⟨rules, found, rule, atPosition, ⟨rfl, rfl, rfl⟩, rfl⟩
        exact ⟨rules, position, rule, rfl, found, atPosition, rfl⟩
      · rintro ⟨rules, samePosition, rule, ⟨rfl, rfl⟩, found, atPosition, rfl⟩
        exact ⟨rules, found, _, atPosition, ⟨rfl, rfl, rfl⟩, rfl⟩
  | group other group position => simp [DomainRules.ruleAt?, Option.bind_eq_some_iff]

/-- The key of a group rule tells its place. -/
theorem ruleAt?_eq_group_iff {place : RulePlace} {domain group : String} {index : Nat}
    {conditions : List Descriptor} :
    document.ruleAt? place = some (.group domain group index, conditions) ↔
      place = .group domain group index ∧
        ∃ rules entries entry, document.domains.find? domain = some rules ∧
          rules.groups.find? group = some entries ∧ entries[index]? = some entry ∧
          entry.conditions = conditions := by
  rw [ruleAt?, Option.bind_eq_some_iff]
  cases place with
  | transition other position => simp [DomainRules.ruleAt?]
  | group other otherGroup position =>
      simp only [RulePlace.domain, DomainRules.ruleAt?, Option.bind_eq_some_iff,
        Option.map_eq_some_iff, Prod.mk.injEq, RuleKey.group.injEq, RulePlace.group.injEq]
      constructor
      · rintro ⟨rules, found, entries, inGroup, entry, atIndex, ⟨rfl, rfl, rfl⟩, rfl⟩
        exact ⟨⟨rfl, rfl, rfl⟩, rules, entries, entry, found, inGroup, atIndex, rfl⟩
      · rintro ⟨⟨rfl, rfl, rfl⟩, rules, entries, entry, found, inGroup, atIndex, rfl⟩
        exact ⟨rules, found, entries, inGroup, entry, atIndex, ⟨rfl, rfl, rfl⟩, rfl⟩

/-- The listed places of a document are those where it has a rule. -/
theorem mem_places_iff {place : RulePlace} :
    place ∈ document.places ↔ (document.ruleAt? place).isSome = true := by
  rw [places, ruleAt?, List.mem_flatMap]
  constructor
  · rintro ⟨⟨domain, rules⟩, member, inDomain⟩
    rcases DomainRules.mem_places_iff.mp inDomain with ⟨rfl, present⟩
    rw [Dict.find?_eq_some_iff.mpr member]
    exact present
  · intro present
    cases found : document.domains.find? place.domain with
    | none => simp [found] at present
    | some rules =>
        rw [found, Option.bind_some] at present
        exact ⟨(place.domain, rules), Dict.find?_eq_some_iff.mp found,
          DomainRules.mem_places_iff.mpr ⟨rfl, present⟩⟩

/-- The places of a document are listed by domain, so that no place occurs twice. -/
theorem places_pairwise (document : Document) : document.places.Pairwise RulePlace.Before := by
  rw [places, List.pairwise_flatMap]
  constructor
  · intro entry _
    exact DomainRules.places_pairwise
  · apply document.domains.sorted.imp
    intro leftEntry rightEntry before left leftMem right rightMem
    left
    rw [DomainRules.domain_of_mem_places leftMem, DomainRules.domain_of_mem_places rightMem]
    exact before

/-- There are as many places as the document has rules. -/
theorem length_places (document : Document) : document.places.length = document.ruleCount := by
  simp [places, ruleCount, Dict.values, total, List.length_flatMap, List.sum,
    DomainRules.length_places]
  rfl

/-- Walking the places of a document is walking its keyed rules. -/
theorem map_ruleAt?_places (document : Document) :
    document.places.map document.ruleAt? = document.keyedRules.map some := by
  rw [places, keyedRules, List.map_flatMap, List.map_flatMap]
  apply List.flatMap_congr
  rintro ⟨domain, rules⟩ member
  have found := Dict.find?_eq_some_iff.mpr member
  rw [← DomainRules.map_ruleAt?_places]
  apply List.map_congr_left
  intro place inDomain
  rw [ruleAt?, DomainRules.domain_of_mem_places inDomain, found]
  rfl

/-- The rules are counted with those whose key another rule has too. -/
theorem length_keyedRules (document : Document) :
    document.keyedRules.length = document.ruleCount := by
  have sameLength := congrArg List.length document.map_ruleAt?_places
  rw [List.length_map, List.length_map, document.length_places] at sameLength
  exact sameLength.symm

end Document

end WorkflowGuard
