import WorkflowGuard.Registry.Build

/-!
# Building a registry rule by rule

A registry is filled by nested loops, which put every rule into one table and count and report
on the way. This file says what the table holds when the loops are through, and also while they
are running.

Whatever the nesting, the rules are added one after another, in the order in which the document
lists them (`toCompilation_draft`). So it is enough to know what a compilation is like after some
rules of a list: each key has the last of its rules so far, while the numbers and the reports take
all rules so far into account, those that were overwritten included (`Compilation.Covers`). One
more rule preserves this, and therefore any number of rules does.

The workflows and what is known of the entries of groups are filled by the same loops, into
dictionaries of their own. They are treated apart, because no rule looks at them.
-/

namespace WorkflowGuard

/-- A rule with the key it is stored under. -/
abbrev KeyedRule :=
  RuleKey × List Descriptor

namespace KeyedRule

/-- The key and the fault of a rule that cannot be compiled. -/
def rejection? : KeyedRule → Option (RuleKey × RuleError)
  | (key, conditions) =>
    match Predicate.compile? conditions with
    | .ok _ => none
    | .error error => some (key, error)

/-- The descriptors of the last rule of a key. -/
def last? (rules : List KeyedRule) (key : RuleKey) : Option (List Descriptor) :=
  (rules.findRev? fun rule => rule.1 == key).map Prod.snd

/-- The last rule of a key is looked for at the back first. -/
theorem last?_append (front back : List KeyedRule) (key : RuleKey) :
    last? (front ++ back) key = (last? back key).or (last? front key) := by
  simp only [last?, List.findRev?_eq_find?_reverse, List.reverse_append, List.find?_append]
  cases back.reverse.find? fun rule => rule.1 == key <;> rfl

/-- A rule at the end is the last of its key and changes nothing for the others. -/
theorem last?_concat (rules : List KeyedRule) (key other : RuleKey)
    (conditions : List Descriptor) :
    last? (rules ++ [(key, conditions)]) other =
      if other = key then some conditions else last? rules other := by
  rw [last?_append]
  by_cases same : other = key
  · simp [last?, List.findRev?, same]
  · simp [last?, List.findRev?, same, Ne.symm same]

theorem last?_eq_none_of_forall_ne {rules : List KeyedRule} {key : RuleKey}
    (otherKeys : ∀ rule ∈ rules, rule.1 ≠ key) : last? rules key = none := by
  rw [last?, List.findRev?_eq_find?_reverse, Option.map_eq_none_iff, List.find?_eq_none]
  intro rule member
  simpa using otherKeys rule (List.mem_reverse.mp member)

/-- Other keys behind, or in front, do not matter. -/
theorem last?_append_of_back {front back : List KeyedRule} {key : RuleKey}
    (otherKeys : ∀ rule ∈ back, rule.1 ≠ key) : last? (front ++ back) key = last? front key := by
  rw [last?_append, last?_eq_none_of_forall_ne otherKeys, Option.none_or]

theorem last?_append_of_front {front back : List KeyedRule} {key : RuleKey}
    (otherKeys : ∀ rule ∈ front, rule.1 ≠ key) : last? (front ++ back) key = last? back key := by
  rw [last?_append, last?_eq_none_of_forall_ne otherKeys, Option.or_none]

/-- The rules of a list that cannot be compiled, in order. -/
def rejections (rules : List KeyedRule) : List (RuleKey × RuleError) :=
  rules.filterMap rejection?

/-- The event for a rule that cannot be compiled. -/
def report (rejection : RuleKey × RuleError) : Event :=
  .keyedRuleDenied rejection.1 rejection.2

theorem rejections_concat (rules : List KeyedRule) (rule : KeyedRule) :
    rejections (rules ++ [rule]) = rejections rules ++ (rejection? rule).toList := by
  rw [rejections, List.filterMap_append]
  cases rejected : rejection? rule <;> simp [rejections, rejected]

end KeyedRule

/-- The rules that cannot be compiled, with their keys and faults, in the order of the rules. -/
def Document.rejectedRules (document : Document) : List (RuleKey × RuleError) :=
  KeyedRule.rejections document.keyedRules

namespace Compilation

section Step

variable (compilation : Compilation) (key : RuleKey) (conditions : List Descriptor)

/-- A rule is counted and its key bound, whether or not it compiles. A fault is counted as a
failure besides, and reported behind all earlier reports. -/
theorem add_eq :
    compilation.add key conditions =
      { rules := compilation.rules.insert key (Predicate.compile conditions)
        stats :=
          { domains := compilation.stats.domains
            rules := compilation.stats.rules + 1
            failedRules := compilation.stats.failedRules +
              (KeyedRule.rejection? (key, conditions)).toList.length }
        events := compilation.events ++
          (KeyedRule.rejection? (key, conditions)).toList.map KeyedRule.report } := by
  rw [KeyedRule.rejection?, add]
  cases compiled : Predicate.compile? conditions with
  | ok predicate =>
      rw [Predicate.compileObserved_of_ok compiled]
      simp
  | error error =>
      rw [Predicate.compileObserved_of_error compiled]
      rfl

@[simp]
theorem rules_add :
    (compilation.add key conditions).rules =
      compilation.rules.insert key (Predicate.compile conditions) := by
  rw [add_eq]

@[simp]
theorem domains_add :
    (compilation.add key conditions).stats.domains = compilation.stats.domains := by
  rw [add_eq]

@[simp]
theorem ruleCount_add :
    (compilation.add key conditions).stats.rules = compilation.stats.rules + 1 := by
  rw [add_eq]

@[simp]
theorem failedRules_add :
    (compilation.add key conditions).stats.failedRules =
      compilation.stats.failedRules + (KeyedRule.rejection? (key, conditions)).toList.length := by
  rw [add_eq]

@[simp]
theorem events_add :
    (compilation.add key conditions).events =
      compilation.events ++
        (KeyedRule.rejection? (key, conditions)).toList.map KeyedRule.report := by
  rw [add_eq]

end Step

/-- The compilation is what becomes of some rules, added in this order to an empty table for so
many domains. -/
structure Covers (domains : Nat) (done : List KeyedRule) (compilation : Compilation) : Prop where
  /-- A key has the last of its rules so far. -/
  find? : ∀ key,
    compilation.rules.find? key = (KeyedRule.last? done key).map Predicate.compile
  domains : compilation.stats.domains = domains
  /-- All rules so far are counted, those that were overwritten included. -/
  counted : compilation.stats.rules = done.length
  rejected : compilation.stats.failedRules = (KeyedRule.rejections done).length
  /-- Every fault so far was reported once, in the order of the rules. -/
  reported : compilation.events = (KeyedRule.rejections done).map KeyedRule.report
  size_le : compilation.rules.size ≤ done.length
  /-- As long as no key comes twice, nothing is overwritten. -/
  size_eq : (done.map Prod.fst).Nodup → compilation.rules.size = done.length

/-- Before the first rule. -/
theorem covers_nil (domains : Nat) :
    Covers domains [] { stats := { domains := domains, rules := 0, failedRules := 0 } } where
  find? _ := RuleTable.find?_empty
  domains := rfl
  counted := rfl
  rejected := rfl
  reported := rfl
  size_le := Nat.le_refl 0
  size_eq _ := rfl

/-- One more rule takes its key, from an earlier rule perhaps, and joins the numbers and the
reports. -/
theorem Covers.add {domains : Nat} {done : List KeyedRule} {compilation : Compilation}
    (covers : Covers domains done compilation) (key : RuleKey) (conditions : List Descriptor) :
    Covers domains (done ++ [(key, conditions)]) (compilation.add key conditions) where
  find? other := by
    rw [rules_add, RuleTable.find?_insert, KeyedRule.last?_concat, covers.find?]
    split <;> rfl
  domains := by rw [domains_add, covers.domains]
  counted := by simp [covers.counted]
  rejected := by
    rw [failedRules_add, covers.rejected, KeyedRule.rejections_concat, List.length_append]
  reported := by
    rw [events_add, covers.reported, KeyedRule.rejections_concat, List.map_append]
  size_le := by
    rw [rules_add, List.length_append]
    exact Nat.le_trans RuleTable.size_insert_le (Nat.succ_le_succ covers.size_le)
  size_eq distinct := by
    rw [List.map_append, List.nodup_append] at distinct
    rcases distinct with ⟨distinct, _, fresh⟩
    -- The key is new to the table, for no earlier rule has it.
    have unbound : compilation.rules.find? key = none := by
      rw [covers.find?, KeyedRule.last?_eq_none_of_forall_ne, Option.map_none]
      exact fun rule member => fresh _ (List.mem_map_of_mem member) key (by simp)
    rw [rules_add, RuleTable.size_insert_of_unbound unbound, covers.size_eq distinct,
      List.length_append]
    rfl

/-- Adds rules one after another. -/
def addAll (compilation : Compilation) (rules : List KeyedRule) : Compilation :=
  rules.foldl (fun compilation rule => compilation.add rule.1 rule.2) compilation

/-- After any number of rules the compilation is what becomes of all of them. -/
theorem Covers.addAll {domains : Nat} {done : List KeyedRule} {compilation : Compilation}
    (covers : Covers domains done compilation) (rules : List KeyedRule) :
    Covers domains (done ++ rules) (compilation.addAll rules) := by
  induction rules generalizing done compilation with
  | nil => simpa [Compilation.addAll] using covers
  | cons rule rest ih =>
      rw [show done ++ rule :: rest = (done ++ [rule]) ++ rest by simp]
      exact ih (covers.add rule.1 rule.2)

end Compilation

/-- What is known of the entries of a group, by position. -/
def RuleInfo.ofEntries (entries : List GroupRule) : List RuleInfo :=
  entries.mapIdx fun index entry => ⟨index, entry.name, entry.multiplier⟩

/-- Puts what is known of some groups under their names. -/
def RuleInfo.ofGroups (known : Dict (List RuleInfo)) (groups : List (String × List GroupRule)) :
    Dict (List RuleInfo) :=
  groups.foldl (fun known group => known.insert group.1 (ofEntries group.2)) known

namespace Compilation

/-! ## The loops visit the rules as they are listed -/

theorem addAll_append (compilation : Compilation) (front back : List KeyedRule) :
    compilation.addAll (front ++ back) = (compilation.addAll front).addAll back :=
  List.foldl_append

/-- The loop over the transitions adds their keyed rules. -/
theorem foldl_addTransition (domain : String) (compilation : Compilation)
    (transitions : List TransitionRule) :
    transitions.foldl (addTransition domain) compilation =
      compilation.addAll (transitions.map fun rule =>
        (.transition domain rule.source rule.target, rule.conditions)) := by
  rw [addAll, List.foldl_map]
  rfl

/-- The loop over a group adds its entries and lists what is known of them. -/
theorem foldl_addEntry (domain group : String) (compilation : Compilation)
    (infos : List RuleInfo) (entries : List (GroupRule × Nat)) :
    entries.foldl (addEntry domain group) (compilation, infos) =
      (compilation.addAll (entries.map fun entry =>
          (.group domain group entry.2, entry.1.conditions)),
        infos ++ entries.map fun entry => ⟨entry.2, entry.1.name, entry.1.multiplier⟩) := by
  induction entries generalizing compilation infos with
  | nil => simp [addAll]
  | cons entry rest ih => simp [addEntry, ih, addAll]

/-- The loop over a group adds its keyed rules, and lists its entries beside. -/
theorem addGroup_eq (domain : String) (compilation : Compilation)
    (groups : Dict (List RuleInfo)) (group : String) (entries : List GroupRule) :
    addGroup domain (compilation, groups) (group, entries) =
      (compilation.addAll (entries.mapIdx fun index entry =>
          (.group domain group index, entry.conditions)),
        groups.insert group (RuleInfo.ofEntries entries)) := by
  simp only [addGroup, foldl_addEntry, RuleInfo.ofEntries, List.mapIdx_eq_zipIdx_map,
    List.nil_append]

/-- The loop over the groups of a domain adds their entries group by group, and puts what is known
of a group under its name. -/
theorem foldl_addGroup (domain : String) (compilation : Compilation)
    (known : Dict (List RuleInfo)) (groups : List (String × List GroupRule)) :
    groups.foldl (addGroup domain) (compilation, known) =
      (compilation.addAll (groups.flatMap fun (group, entries) =>
          entries.mapIdx fun index entry => (.group domain group index, entry.conditions)),
        RuleInfo.ofGroups known groups) := by
  induction groups generalizing compilation known with
  | nil => rfl
  | cons group rest ih =>
      rw [List.foldl_cons, addGroup_eq, ih, List.flatMap_cons, addAll_append]
      rfl

end Compilation

namespace Draft

variable (draft : Draft) (domain : String) (rules : DomainRules)

/-- The loops in a domain come down to its rules as they are listed. -/
theorem toCompilation_addDomain :
    (draft.addDomain (domain, rules)).toCompilation =
      draft.toCompilation.addAll (rules.keyed domain) := by
  simp only [addDomain, Compilation.foldl_addTransition, Compilation.foldl_addGroup,
    DomainRules.keyed, Compilation.addAll_append]

theorem groups_addDomain :
    (draft.addDomain (domain, rules)).groups = draft.groups.insert domain
      (RuleInfo.ofGroups ((draft.groups.find? domain).getD ∅) rules.groups.entries) := by
  simp only [addDomain, Compilation.foldl_addGroup]

theorem workflows_addDomain :
    (draft.addDomain (domain, rules)).workflows =
      draft.workflows.insert domain rules.workflow := rfl

end Draft

namespace Document

variable (document : Document)

/-- The loops over a document come down to its rules as they are listed. -/
theorem toCompilation_draft :
    document.draft.toCompilation =
      Compilation.addAll
        { stats := { domains := document.domains.size, rules := 0, failedRules := 0 } }
        document.keyedRules := by
  rw [keyedRules, Compilation.addAll, List.foldl_flatMap, draft]
  exact (List.foldl_hom Draft.toCompilation fun draft domain =>
    (draft.toCompilation_addDomain domain.1 domain.2).symm).symm

/-- What the loops make of a document is what becomes of all its rules. -/
theorem covers_draft :
    Compilation.Covers document.domains.size document.keyedRules document.draft.toCompilation := by
  rw [toCompilation_draft]
  exact (Compilation.covers_nil document.domains.size).addAll document.keyedRules

/-- In the end as much is known of every group as it has entries. -/
theorem groups_draft :
    document.draft.groups = document.domains.mapEntries fun _ rules =>
      rules.groups.mapEntries fun _ entries => RuleInfo.ofEntries entries := by
  have filled : document.draft.groups =
      document.domains.entries.foldl (fun known domain => known.insert domain.1
        (RuleInfo.ofGroups ((known.find? domain.1).getD ∅) domain.2.groups.entries)) ∅ :=
    (List.foldl_hom Draft.groups fun draft domain =>
      (draft.groups_addDomain domain.1 domain.2).symm).symm
  rw [filled, document.domains.foldl_insert_eq_mapEntries fun _ known rules =>
    RuleInfo.ofGroups (known.getD ∅) rules.groups.entries]
  -- nothing was known of the domain before, so each of its groups is filled from nothing too
  congr 1
  funext _ rules
  exact rules.groups.foldl_insert_eq_mapEntries fun _ _ entries => RuleInfo.ofEntries entries

theorem workflows_draft :
    document.draft.workflows = document.domains.mapEntries fun _ rules => rules.workflow := by
  have filled : document.draft.workflows =
      document.domains.entries.foldl (fun known domain =>
        known.insert domain.1 domain.2.workflow) ∅ :=
    (List.foldl_hom Draft.workflows fun draft domain =>
      (draft.workflows_addDomain domain.1 domain.2).symm).symm
  rw [filled]
  exact document.domains.foldl_insert_eq_mapEntries fun _ _ rules => rules.workflow

end Document

end WorkflowGuard
