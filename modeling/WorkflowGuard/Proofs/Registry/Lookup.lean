import Mathlib.Data.List.Induction
import WorkflowGuard.Engine
import WorkflowGuard.Proofs.Registry.Building

/-!
# Looking rules up in a built registry

What the table of a built registry holds under a key is the last rule of that key in the whole
list of rules. This file says the same in terms of the document: only the rules of the domain of
the key matter, of these only the transitions for the key of an edge, and only the one group for
the key of an entry. It also says what the registry knows of workflows and groups, and that the
sequence number of an installation takes no part in any answer. Everything later is said about
documents and uses these facts.
-/

namespace WorkflowGuard

namespace DomainRules

/-- The last transition rule that guards an edge. -/
def lastGuard? (rules : DomainRules) (source target : String) : Option TransitionRule :=
  rules.transitions.findRev? fun rule => rule.source == source && rule.target == target

theorem lastGuard?_mem {rules : DomainRules} {source target : String} {rule : TransitionRule}
    (found : rules.lastGuard? source target = some rule) :
    rule ∈ rules.transitions ∧ rule.source = source ∧ rule.target = target := by
  rw [lastGuard?] at found
  rw [List.findRev?_eq_find?_reverse] at found
  have member := List.mem_of_find?_eq_some found
  have sameEdge := List.find?_some found
  exact ⟨by simpa using member, by simpa using sameEdge⟩

theorem lastGuard?_eq_none {rules : DomainRules} {source target : String}
    (missing : rules.lastGuard? source target = none) {rule : TransitionRule}
    (member : rule ∈ rules.transitions) : ¬(rule.source = source ∧ rule.target = target) := by
  rw [lastGuard?] at missing
  rw [List.findRev?_eq_find?_reverse, List.find?_eq_none] at missing
  simpa using missing rule (by simpa using member)

end DomainRules

section Listing

namespace KeyedRule

/-- In a listing by names, only the entry of the name in the key matters. -/
theorem last?_flatMap_entries {α : Type} (dict : Dict α) (list : String → α → List KeyedRule)
    (name : String) {key : RuleKey}
    (elsewhere : ∀ other value, other ≠ name → ∀ rule ∈ list other value, rule.1 ≠ key) :
    last? (dict.entries.flatMap fun entry => list entry.1 entry.2) key =
      (dict.find? name).bind fun value => last? (list name value) key := by
  rw [Dict.find?]
  generalize dict.entries = entries, dict.sorted = sorted
  induction entries with
  | nil => rfl
  | cons entry rest ih =>
      rcases entry with ⟨other, value⟩
      rcases List.pairwise_cons.mp sorted with ⟨before, sortedRest⟩
      rw [List.flatMap_cons, last?_append, ih sortedRest, Assoc.find?]
      by_cases same : name = other
      · subst same
        have onlyHere : Assoc.find? name rest = none :=
          Assoc.find?_eq_none_of_forall_ne fun entry member same =>
            String.lt_irrefl _ (same ▸ before entry member)
        simp [onlyHere]
      · have notHere := last?_eq_none_of_forall_ne (elsewhere other value (Ne.symm same))
        simp [same, notHere]

/-- The rules of a group have their positions as keys. -/
theorem last?_mapIdx (domain group : String) (entries : List GroupRule) (index : Nat) :
    last? (entries.mapIdx fun index entry => (.group domain group index, entry.conditions))
        (.group domain group index) =
      entries[index]?.map GroupRule.conditions := by
  induction entries using List.reverseRecOn with
  | nil => simp [last?]
  | append_singleton entries entry ih =>
      rw [List.mapIdx_concat, last?_concat, ih]
      rcases Nat.lt_trichotomy index entries.length with inFront | atEnd | beyond
      · rw [if_neg (by simp; omega), List.getElem?_append_left inFront]
      · simp [atEnd]
      · rw [if_neg (by simp; omega), List.getElem?_eq_none (by omega),
          List.getElem?_eq_none (by simp; omega)]

/-- Of a list of transitions the last one that guards the edge counts. -/
theorem last?_transitions (domain source target : String) (rules : DomainRules) :
    last? (rules.transitions.map fun rule =>
        (.transition domain rule.source rule.target, rule.conditions))
        (.transition domain source target) =
      (rules.lastGuard? source target).map TransitionRule.conditions := by
  have sameEdge : ((fun rule : KeyedRule => rule.1 == .transition domain source target) ∘
      fun rule : TransitionRule =>
        (.transition domain rule.source rule.target, rule.conditions)) =
      fun rule => rule.source == source && rule.target == target := by
    funext rule
    rw [Bool.eq_iff_iff]
    simp
  simp only [last?, DomainRules.lastGuard?, List.findRev?_eq_find?_reverse, ← List.map_reverse,
    List.find?_map, Option.map_map, sameEdge]
  rfl

theorem domain_of_mem_keyed {domain : String} {rules : DomainRules} {rule : KeyedRule}
    (member : rule ∈ rules.keyed domain) : rule.1.domain = domain := by
  simp only [DomainRules.keyed, List.mem_append, List.mem_map, List.mem_flatMap,
    List.mem_mapIdx] at member
  rcases member with ⟨transition, _, rfl⟩ | ⟨group, _, index, _, rfl⟩ <;> rfl

/-- Only the rules of the domain in the key matter. -/
theorem last?_keyedRules (document : Document) (key : RuleKey) :
    last? document.keyedRules key =
      (document.domains.find? key.domain).bind fun rules => last? (rules.keyed key.domain) key := by
  refine last?_flatMap_entries document.domains (fun domain rules => rules.keyed domain) _ ?_
  rintro other rules otherDomain rule member rfl
  exact otherDomain (domain_of_mem_keyed member).symm

/-- In a domain, an edge belongs to the last transition rule for it. -/
theorem last?_keyed_transition (domain source target : String) (rules : DomainRules) :
    last? (rules.keyed domain) (.transition domain source target) =
      (rules.lastGuard? source target).map TransitionRule.conditions := by
  rw [DomainRules.keyed, last?_append_of_back, last?_transitions]
  simp only [List.mem_flatMap, List.mem_mapIdx]
  rintro _ ⟨group, _, index, _, rfl⟩ ⟨⟩

theorem last?_keyed_group (domain group : String) (index : Nat) (rules : DomainRules) :
    last? (rules.keyed domain) (.group domain group index) =
      (rules.groups.find? group).bind fun entries =>
        entries[index]?.map GroupRule.conditions := by
  rw [DomainRules.keyed, last?_append_of_front,
    last?_flatMap_entries rules.groups (fun group entries => entries.mapIdx fun index entry =>
      (.group domain group index, entry.conditions)) group]
  · simp only [last?_mapIdx]
  · simp only [List.mem_mapIdx]
    rintro other entries otherGroup _ ⟨position, _, rfl⟩ ⟨⟩
    exact otherGroup rfl
  · simp only [List.mem_map]
    rintro _ ⟨rule, _, rfl⟩ ⟨⟩

end KeyedRule

end Listing

namespace Registry

variable (document : Document) (fingerprint : Fingerprint)

@[simp]
theorem defaultDomain_build :
    (build document fingerprint).defaultDomain = document.defaultDomain := rfl

/-- The table holds the last rule of every key. -/
theorem find?_build (key : RuleKey) :
    (build document fingerprint).find? key =
      (KeyedRule.last? document.keyedRules key).map Predicate.compile :=
  document.covers_draft.find? key

/-- An edge is served by the last rule that its domain has for it. -/
theorem find?_build_transition (domain source target : String) :
    (build document fingerprint).find? (.transition domain source target) =
      (document.domains.find? domain).bind fun rules =>
        (rules.lastGuard? source target).map fun rule => Predicate.compile rule.conditions := by
  rw [find?_build, KeyedRule.last?_keyedRules, RuleKey.domain, Option.map_bind]
  congr 1
  funext rules
  rw [Function.comp_apply, KeyedRule.last?_keyed_transition, Option.map_map]
  rfl

/-- A group key is served by the entry at its position in its domain. -/
theorem find?_build_group (domain group : String) (index : Nat) :
    (build document fingerprint).find? (.group domain group index) =
      (document.domains.find? domain).bind fun rules =>
        (rules.groups.find? group).bind fun entries =>
          entries[index]?.map fun entry => Predicate.compile entry.conditions := by
  rw [find?_build, KeyedRule.last?_keyedRules, RuleKey.domain, Option.map_bind]
  congr 1
  funext rules
  rw [Function.comp_apply, KeyedRule.last?_keyed_group, Option.map_bind]
  simp only [Function.comp_def, Option.map_map]

theorem nextStates_build (domain source : String) :
    (build document fingerprint).nextStates domain source =
      ((document.domains.find? domain).bind fun rules => rules.workflow.find? source).getD [] := by
  rw [nextStates, build, buildLogged, document.workflows_draft, Dict.find?_mapEntries,
    Option.bind_map]
  rfl

/-- What is known of a group is read off its entries, in order. -/
theorem groupRules_build (domain group : String) :
    (build document fingerprint).groupRules domain group =
      (((document.domains.find? domain).bind fun rules =>
        rules.groups.find? group).getD []).mapIdx fun index entry =>
          ⟨index, entry.name, entry.multiplier⟩ := by
  rw [groupRules, build, buildLogged, document.groups_draft, Dict.find?_mapEntries,
    Option.bind_map]
  cases document.domains.find? domain with
  | none => rfl
  | some rules =>
      rw [Option.bind_some, Function.comp_apply, Dict.find?_mapEntries, Option.bind_some]
      cases rules.groups.find? group <;> rfl

end Registry

section Generation

variable (registry : Registry) (generation : Nat)

/-- Which number a registry has does not matter to any answer. -/
@[simp]
theorem Registry.lookup_withGeneration (key : RuleKey) :
    (registry.withGeneration generation).lookup key = registry.lookup key := by
  cases key <;> rfl

@[simp]
theorem Registry.allows_withGeneration (ticket : Ticket) (target : String)
    (principal : Principal) (now : Instant) :
    (registry.withGeneration generation).allows ticket target principal now =
      registry.allows ticket target principal now := by
  rfl

@[simp]
theorem Registry.validNextStates_withGeneration (ticket : Ticket) (principal : Principal)
    (now : Instant) :
    (registry.withGeneration generation).validNextStates ticket principal now =
      registry.validNextStates ticket principal now := by
  rfl

end Generation

end WorkflowGuard
