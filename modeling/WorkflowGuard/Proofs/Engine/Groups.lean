import WorkflowGuard.Proofs.Engine.Decisions

/-!
# What a document says about groups of rules

The rules of a group apply one by one. A rule of the group is reported for a ticket when its
own conditions hold, and it is reported under its position in the document. This file proves
that an engine started on a document reports just these rules.

A registry keeps a group in two tables. One lists the position, the name and the multiplier of
each rule; the predicates stand in the table of all rules, under keys that the engine makes up
from the resolved domain, the group and the listed position. A key that is not in that table is
decided by the policy for groups. Nothing in the form of a registry keeps the two tables in step.
In a built registry they are `Aligned`: a key of the group is bound just when a rule is listed at
its position. This is shown from what the one pass over the document leaves in each of them, and
it is why the policy takes no part in the answer.
-/

namespace WorkflowGuard

namespace Document

/-- The rules that the document lists in a group of the ticket's domain. -/
def groupEntries (document : Document) (ticket : Ticket) (group : String) : List GroupRule :=
  ((document.domains.find? (document.domainOf ticket)).bind fun rules =>
    rules.groups.find? group).getD []

/-- The rule at a position of the group is there, and its own conditions hold. -/
def Applies (document : Document) (ticket : Ticket) (principal : Principal) (group : String)
    (now : Instant) (index : Nat) (entry : GroupRule) : Prop :=
  (document.groupEntries ticket group)[index]? = some entry ∧
    (Predicate.compile entry.conditions).holds ticket principal now = true

end Document

namespace Registry

/-- The table of predicates and the lists of the groups belong together. -/
structure Aligned (registry : Registry) : Prop where
  /-- Every rule of a group is listed with its own position. -/
  listed : ∀ (domain group : String) (position : Nat) (info : RuleInfo),
    (registry.groupRules domain group)[position]? = some info → info.index = position
  /-- A key of a group is bound just when the group lists a rule at its position. -/
  bound_iff : ∀ (domain group : String) (position : Nat),
    (∃ predicate, registry.find? (.group domain group position) = some predicate) ↔
      position < (registry.groupRules domain group).length

section Alignment

variable {registry other : Registry}

theorem Aligned.withGeneration (aligned : registry.Aligned) (generation : Nat) :
    (registry.withGeneration generation).Aligned :=
  ⟨aligned.listed, aligned.bound_iff⟩

/-- The key that is made up from a listed rule is bound, so that no policy is asked for it. -/
theorem Aligned.bound_of_mem (aligned : registry.Aligned) {domain group : String}
    {info : RuleInfo} (member : info ∈ registry.groupRules domain group) :
    ∃ predicate, registry.find? (.group domain group info.index) = some predicate := by
  rcases List.mem_iff_getElem?.mp member with ⟨position, atPosition⟩
  rw [aligned.listed domain group position info atPosition]
  exact (aligned.bound_iff domain group position).mpr
    (List.getElem?_eq_some_iff.mp atPosition).1

/-- Aligned tables answer alike whatever the policies are. -/
theorem Aligned.matchingRules_eq (aligned : registry.Aligned) (rules : other.rules = registry.rules)
    (groups : other.groups = registry.groups)
    (defaultDomain : other.defaultDomain = registry.defaultDomain) (ticket : Ticket)
    (principal : Principal) (group : String) (now : Instant) :
    other.matchingRules ticket principal group now =
      registry.matchingRules ticket principal group now := by
  have domain : other.resolveDomain ticket.domain = registry.resolveDomain ticket.domain := by
    rw [resolveDomain, resolveDomain, defaultDomain]
  have infos : other.groupRules (registry.resolveDomain ticket.domain) group =
      registry.groupRules (registry.resolveDomain ticket.domain) group := by
    rw [groupRules, groupRules, groups]
  rw [matchingRules, matchingRules, domain, infos]
  apply List.filter_congr
  intro info member
  rcases aligned.bound_of_mem member with ⟨predicate, bound⟩
  have otherBound : other.find? (.group (registry.resolveDomain ticket.domain) group info.index) =
      some predicate := by
    rw [find?, rules]
    exact bound
  -- Both find the same predicate under the key, so neither asks its policy.
  rw [lookup, lookup, bound, otherBound, Option.getD_some, Option.getD_some]

end Alignment

variable (document : Document) (fingerprint : Fingerprint) (ticket : Ticket)
  (principal : Principal) (group : String) (now : Instant)

/-- The table of predicates has the entries of a group under their positions. -/
theorem find?_build_entry (domain group : String) (position : Nat) :
    (build document fingerprint).find? (.group domain group position) =
      (((document.domains.find? domain).bind fun rules =>
        rules.groups.find? group).getD [])[position]?.map fun entry =>
          Predicate.compile entry.conditions := by
  rw [find?_build_group]
  cases document.domains.find? domain with
  | none => rfl
  | some rules =>
      rw [Option.bind_some, Option.bind_some]
      cases rules.groups.find? group <;> rfl

/-- The pass over a document leaves the two tables in step. -/
theorem aligned_build : (build document fingerprint).Aligned := by
  constructor
  case listed =>
    intro domain group position info atPosition
    rw [groupRules_build, List.getElem?_mapIdx] at atPosition
    rcases Option.map_eq_some_iff.mp atPosition with ⟨entry, _, rfl⟩
    rfl
  case bound_iff =>
    intro domain group position
    rw [find?_build_entry, groupRules_build, List.length_mapIdx, ← Option.isSome_iff_exists,
      Option.isSome_map]
    simp only [getElem?_def, Option.isSome_dite]

theorem groupRules_build_domainOf :
    (build document fingerprint).groupRules (document.domainOf ticket) group =
      (document.groupEntries ticket group).mapIdx fun index entry =>
        ⟨index, entry.name, entry.multiplier⟩ :=
  groupRules_build document fingerprint (document.domainOf ticket) group

/-- At a position that the group has, the predicate is that of the entry's own conditions. -/
theorem lookup_build_entry {index : Nat} {entry : GroupRule}
    (present : (document.groupEntries ticket group)[index]? = some entry) :
    (build document fingerprint).lookup (.group (document.domainOf ticket) group index) =
      Predicate.compile entry.conditions := by
  rw [Document.groupEntries] at present
  rw [lookup, find?_build_entry, present]
  rfl

/-- Each listed rule is kept or left out by the conditions of its own entry. -/
theorem matchingRules_build :
    (build document fingerprint).matchingRules ticket principal group now =
      ((document.groupEntries ticket group).mapIdx fun index entry =>
        RuleInfo.mk index entry.name entry.multiplier).filter fun info =>
          (document.groupEntries ticket group)[info.index]?.any fun entry =>
            (Predicate.compile entry.conditions).holds ticket principal now := by
  rw [matchingRules, resolveDomain_build, groupRules_build_domainOf]
  apply List.filter_congr
  intro info member
  rcases List.mem_mapIdx.mp member with ⟨index, inRange, rfl⟩
  have present := List.getElem?_eq_getElem inRange
  rw [lookup_build_entry document fingerprint ticket group present, present]
  rfl

theorem mem_matchingRules_build_iff {info : RuleInfo} :
    info ∈ (build document fingerprint).matchingRules ticket principal group now ↔
      ∃ entry, document.Applies ticket principal group now info.index entry ∧
        info.name = entry.name ∧ info.multiplier = entry.multiplier := by
  rw [matchingRules_build, List.mem_filter, List.mem_mapIdx, Option.any_eq_true]
  constructor
  · rintro ⟨⟨index, inRange, rfl⟩, entry, present, holds⟩
    rcases List.getElem?_eq_some_iff.mp present with ⟨_, rfl⟩
    exact ⟨_, ⟨present, holds⟩, rfl, rfl⟩
  · rcases info with ⟨index, name, multiplier⟩
    rintro ⟨entry, ⟨present, holds⟩, rfl, rfl⟩
    rcases List.getElem?_eq_some_iff.mp present with ⟨inRange, isEntry⟩
    simp only at isEntry
    exact ⟨⟨index, inRange, by rw [isEntry]⟩, entry, present, holds⟩

theorem matchingRules_build_ascending :
    ((build document fingerprint).matchingRules ticket principal group now).Pairwise
      fun earlier later => earlier.index < later.index := by
  rw [matchingRules_build]
  apply List.Pairwise.filter
  rw [List.pairwise_iff_getElem]
  intro earlier later _ _ before
  simpa using before

/-- The policies of a document take no part in which rules of a group match. -/
theorem matchingRules_build_of_policies (policies : Policies) (other : Fingerprint) :
    (build { document with policies } other).matchingRules ticket principal group now =
      (build document fingerprint).matchingRules ticket principal group now := by
  apply (aligned_build document fingerprint).matchingRules_eq
  all_goals rfl

/-- Leaving out what has no multiplier is multiplying by nothing. -/
theorem combinedMultiplier_eq_foldl (registry : Registry) :
    registry.combinedMultiplier ticket principal group now =
      (registry.matchingRules ticket principal group now).foldl
        (fun product info =>
          match info.multiplier with
          | some factor => product * factor
          | none => product) 1.0 := by
  have one : Decimal.ofNat 1 = 1.0 := by decide +kernel
  rw [combinedMultiplier, one, List.foldl_filterMap]
  congr 1
  funext product info
  cases info.multiplier with
  | some factor => rfl
  | none => rfl

end Registry

namespace Engine

/-- The engine reports the rules of every group as the document says. -/
structure ReportsGroups (engine : Engine) (document : Document) : Prop where
  /-- A rule is reported just when it applies, with its own position, name and multiplier. -/
  mem_iff : ∀ ticket principal group now info,
    info ∈ engine.registry.matchingRules ticket principal group now ↔
      ∃ entry, document.Applies ticket principal group now info.index entry ∧
        info.name = entry.name ∧ info.multiplier = entry.multiplier
  /-- The positions ascend, so none is reported twice. -/
  ascending : ∀ ticket principal group now,
    (engine.registry.matchingRules ticket principal group now).Pairwise
      fun earlier later => earlier.index < later.index
  /-- Every listed rule is decided by its own predicate, none by the policy for groups. -/
  aligned : engine.registry.Aligned
  /-- A rule that cannot be compiled is not reported. -/
  broken : ∀ ticket principal group now index entry error,
    (document.groupEntries ticket group)[index]? = some entry →
    Predicate.compile? entry.conditions = .error error →
      ∀ info ∈ engine.registry.matchingRules ticket principal group now, info.index ≠ index
  /-- An engine started on a document with other policies reports the same. -/
  policies : ∀ (other : Source) (bytes : Bytes) (policies : Policies),
    other.contents = .ok bytes →
    (Document.load bytes).value = .ok { document with policies } →
      ∃ otherEngine, (start other).value = .ok otherEngine ∧
        ∀ ticket principal group now,
          otherEngine.registry.matchingRules ticket principal group now =
            engine.registry.matchingRules ticket principal group now
  /-- The multipliers that are present are multiplied from left to right. -/
  combined : ∀ ticket principal group now,
    engine.registry.combinedMultiplier ticket principal group now =
      (engine.registry.matchingRules ticket principal group now).foldl
        (fun product info =>
          match info.multiplier with
          | some factor => product * factor
          | none => product) 1.0

/-- An engine starts on the bytes of every accepted document, and then reports the rules of
every group for every ticket as that document says. -/
theorem start_reports_groups {source : Source} {bytes : Bytes} {document : Document}
    (contents : source.contents = .ok bytes)
    (accepted : (Document.load bytes).value = .ok document) :
    ∃ engine, (start source).value = .ok engine ∧ engine.ReportsGroups document := by
  refine ⟨_, value_start contents accepted, ?_⟩
  constructor
  case mem_iff =>
    intro ticket principal group now info
    exact Registry.mem_matchingRules_build_iff document (Fingerprint.ofBytes bytes) ticket
      principal group now
  case ascending =>
    intro ticket principal group now
    exact Registry.matchingRules_build_ascending document (Fingerprint.ofBytes bytes) ticket
      principal group now
  case aligned =>
    exact (Registry.aligned_build document (Fingerprint.ofBytes bytes)).withGeneration 2
  case broken =>
    rintro ticket principal group now _ entry error present rejected info reported rfl
    rcases (Registry.mem_matchingRules_build_iff document (Fingerprint.ofBytes bytes) ticket
      principal group now).mp reported with ⟨other, ⟨samePresent, holds⟩, _⟩
    cases present.symm.trans samePresent
    rw [Predicate.compile, rejected] at holds
    cases holds
  case policies =>
    intro other otherBytes policies otherContents otherAccepted
    refine ⟨_, value_start otherContents otherAccepted, ?_⟩
    intro ticket principal group now
    exact Registry.matchingRules_build_of_policies document (Fingerprint.ofBytes bytes) ticket
      principal group now policies (Fingerprint.ofBytes otherBytes)
  case combined =>
    intro ticket principal group now
    exact Registry.combinedMultiplier_eq_foldl ticket principal group now _

/-- A group whose first rule always applies and whose second rule cannot be compiled, in a
document that allows what has no rule. -/
def brokenEntry : Document where
  policies := { group := .allow }
  domains := ⟨[("it",
    { groups := ⟨[("g",
        [{ multiplier := some (Decimal.ofInt 2), conditions := [] },
          { conditions := [{}] }])], by decide⟩ })], by decide⟩

def brokenEntryBytes : Bytes :=
  Text.utf8 ("[[\"allow\",\"allow\"],null,\x7b\"it\":[\x7b\x7d,[]," ++
    "\x7b\"g\":[[null,2],\x7b\"conditions\":[[]]\x7d]\x7d]\x7d]")

/-- Of two entries the second cannot be compiled, and the policy for groups would allow it. -/
theorem start_reports_brokenEntry :
    (StaticSource.new brokenEntryBytes).toSource.contents = .ok brokenEntryBytes ∧
      (Document.load brokenEntryBytes).value = .ok brokenEntry ∧
      ∃ engine, (start (StaticSource.new brokenEntryBytes).toSource).value = .ok engine ∧
        engine.ReportsGroups brokenEntry := by
  have contents :
      (StaticSource.new brokenEntryBytes).toSource.contents = .ok brokenEntryBytes := rfl
  have accepted : (Document.load brokenEntryBytes).value = .ok brokenEntry := rfl
  exact ⟨contents, accepted, start_reports_groups contents accepted⟩

end Engine

end WorkflowGuard
