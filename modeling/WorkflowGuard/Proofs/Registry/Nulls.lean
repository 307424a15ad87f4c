import WorkflowGuard.Document.Validation
import WorkflowGuard.Proofs.Document.Spelling
import WorkflowGuard.Proofs.Registry.Building

/-!
# A bare null compiles like a missing value

A condition that compares with a bare `null` cannot be compiled where a value is needed, and
where none is needed the `null` is not looked at. Leaving it out changes the fault at most, so a
document and the same document `withoutNulls` are built into the same registry. They also have
the same findings, because validation does not look into conditions at all.
-/

namespace WorkflowGuard

theorem RuleError.toOption_bind {α β : Type} (first : Except RuleError α)
    (next : α → Except RuleError β) :
    (first >>= next).toOption = first.toOption.bind fun value => (next value).toOption := by
  cases first <;> rfl

theorem RuleError.toOption_map {α β : Type} (f : α → β) (result : Except RuleError α) :
    (result.map f).toOption = result.toOption.map f := by
  cases result <;> rfl

namespace Descriptor

/-- Where a value is needed, `null` is as bad as none; where none is needed, it is not looked at.
-/
theorem toOption_fieldCondition_null (index : Nat) (field : String) (operator : Operator) :
    (fieldCondition index field operator (some (.structured .null))).toOption =
      (fieldCondition index field operator none).toOption := by
  rw [fieldCondition, fieldCondition]
  cases TimeField.ofName? field <;> cases operator <;> rfl

theorem toOption_fieldConditions_null (index : Nat) (role field operator : Option String) :
    (fieldConditions index ⟨role, field, operator, some (.structured .null)⟩).toOption =
      (fieldConditions index ⟨role, field, operator, none⟩).toOption := by
  rw [fieldConditions, fieldConditions]
  cases field with
  | none => rfl
  | some field =>
      dsimp only
      split
      · rfl
      · simp only [RuleError.toOption_bind, toOption_fieldCondition_null]

theorem toOption_conditions_withoutNull (index : Nat) (descriptor : Descriptor) :
    (descriptor.withoutNull.conditions index).toOption =
      (descriptor.conditions index).toOption := by
  rcases descriptor with ⟨role, field, operator, value⟩
  cases value with
  | none => rfl
  | some literal =>
      cases isNull : literal.isNull with
      | false => simp [withoutNull, Option.filter_some, isNull]
      | true =>
          rcases Literal.isNull_iff.mp isNull with rfl
          change (conditions index ⟨role, field, operator, none⟩).toOption = _
          rw [conditions, conditions]
          dsimp only
          split
          · rfl
          · simp only [RuleError.toOption_bind, toOption_fieldConditions_null]

theorem toOption_allConditions_withoutNull (index : Nat) (descriptors : List Descriptor) :
    (allConditions index (descriptors.map withoutNull)).toOption =
      (allConditions index descriptors).toOption := by
  induction descriptors generalizing index with
  | nil => rfl
  | cons descriptor rest ih =>
      rw [List.map_cons, allConditions, allConditions]
      simp only [RuleError.toOption_bind, toOption_conditions_withoutNull, ih]

end Descriptor

/-- Faults aside, a rule compiles to the same without its bare nulls. -/
theorem Predicate.toOption_compile?_withoutNull (descriptors : List Descriptor) :
    (compile? (descriptors.map Descriptor.withoutNull)).toOption =
      (compile? descriptors).toOption := by
  rw [compile?, compile?, RuleError.toOption_map, RuleError.toOption_map,
    Descriptor.toOption_allConditions_withoutNull]

/-- Which fault a rule has makes no difference to what it denies. -/
theorem Predicate.compile_eq_of_toOption_eq {left right : List Descriptor}
    (alike : (compile? left).toOption = (compile? right).toOption) :
    compile left = compile right := by
  have compile_eq (descriptors : List Descriptor) :
      compile descriptors = (compile? descriptors).toOption.getD denyAll := by
    rw [compile]
    cases compile? descriptors <;> rfl
  rw [compile_eq, compile_eq, alike]

/-! ## The registry and the findings of a document with other conditions -/

section Registry

variable {f : Descriptor → Descriptor}

/-- Two compilations with the same rules and numbers. Their reports may differ. -/
structure Compilation.Alike (left right : Compilation) : Prop where
  rules : left.rules = right.rules
  stats : left.stats = right.stats

theorem KeyedRule.length_rejection? (key : RuleKey) (conditions : List Descriptor) :
    (rejection? (key, conditions)).toList.length =
      if (Predicate.compile? conditions).toOption.isNone then 1 else 0 := by
  cases compiled : Predicate.compile? conditions <;> simp [rejection?, compiled, Except.toOption]

/-- Rules that compile alike are added alike: which fault a rule has does not count. -/
theorem Compilation.Alike.add {left right : Compilation} (alike : left.Alike right)
    (key : RuleKey) {conditions others : List Descriptor}
    (same : (Predicate.compile? conditions).toOption = (Predicate.compile? others).toOption) :
    (left.add key conditions).Alike (right.add key others) := by
  constructor
  case rules =>
    rw [rules_add, rules_add, alike.rules, Predicate.compile_eq_of_toOption_eq same]
  case stats =>
    apply Stats.ext
    · rw [domains_add, domains_add, alike.stats]
    · rw [ruleCount_add, ruleCount_add, alike.stats]
    · rw [failedRules_add, failedRules_add, alike.stats, KeyedRule.length_rejection?,
        KeyedRule.length_rejection?, same]

/-- Lists of rules that compile alike, one by one, are added alike. -/
theorem Compilation.Alike.addAll_map {left right : Compilation} (alike : left.Alike right)
    (same : ∀ descriptors, (Predicate.compile? (descriptors.map f)).toOption =
      (Predicate.compile? descriptors).toOption) (rules : List KeyedRule) :
    (left.addAll (rules.map fun (key, conditions) => (key, conditions.map f))).Alike
      (right.addAll rules) := by
  induction rules generalizing left right with
  | nil => exact alike
  | cons rule rest ih => exact ih (alike.add rule.1 (same rule.2))

theorem DomainRules.keyed_mapConditions (domain : String) (rules : DomainRules) :
    (rules.mapConditions f).keyed domain =
      (rules.keyed domain).map fun (key, conditions) => (key, conditions.map f) := by
  simp [keyed, mapConditions, TransitionRule.mapConditions, GroupRule.mapConditions,
    Dict.mapEntries, Function.comp_def, List.map_flatMap, List.flatMap_map,
    List.mapIdx_eq_zipIdx_map, List.zipIdx_map]

/-- Changing conditions leaves the keys of a document as they are. -/
theorem Document.keyedRules_mapConditions (document : Document) :
    (document.mapConditions f).keyedRules =
      document.keyedRules.map fun (key, conditions) => (key, conditions.map f) := by
  simp [keyedRules, mapConditions, Dict.mapEntries, List.map_flatMap, List.flatMap_map,
    DomainRules.keyed_mapConditions]

theorem Document.size_domains_mapConditions (document : Document) :
    (document.mapConditions f).domains.size = document.domains.size := by
  simp [mapConditions, Dict.mapEntries, Dict.size]

theorem Document.groups_draft_mapConditions (document : Document) :
    (document.mapConditions f).draft.groups = document.draft.groups := by
  simp [groups_draft, mapConditions, DomainRules.mapConditions, GroupRule.mapConditions,
    Dict.mapEntries, RuleInfo.ofEntries, Function.comp_def, List.mapIdx_eq_zipIdx_map,
    List.zipIdx_map]

theorem Document.workflows_draft_mapConditions (document : Document) :
    (document.mapConditions f).draft.workflows = document.draft.workflows := by
  simp [workflows_draft, mapConditions, DomainRules.mapConditions, Dict.mapEntries,
    Function.comp_def]

/-- A document and the same document with conditions that compile alike have one registry. -/
theorem Registry.build_mapConditions
    (same : ∀ descriptors, (Predicate.compile? (descriptors.map f)).toOption =
      (Predicate.compile? descriptors).toOption) (document : Document)
    (fingerprint : Fingerprint) :
    build (document.mapConditions f) fingerprint = build document fingerprint := by
  have alike : (document.mapConditions f).draft.toCompilation.Alike
      document.draft.toCompilation := by
    rw [Document.toCompilation_draft, Document.toCompilation_draft,
      Document.keyedRules_mapConditions, Document.size_domains_mapConditions]
    exact Compilation.Alike.addAll_map ⟨rfl, rfl⟩ same document.keyedRules
  simp only [build, buildLogged, alike.rules, alike.stats, Document.groups_draft_mapConditions,
    Document.workflows_draft_mapConditions]
  rfl

/-- Validation looks at the edges of transition rules, not at their conditions. -/
theorem DomainRules.transitionFindingsFrom_mapConditions (domain : String) (rules : DomainRules)
    (later : List TransitionRule) (index : Nat) (seen : List (String × String)) :
    (rules.mapConditions f).transitionFindingsFrom domain index seen
        (later.map (·.mapConditions f)) =
      rules.transitionFindingsFrom domain index seen later := by
  induction later generalizing index seen with
  | nil => rfl
  | cons rule rest ih =>
      have first : (rules.mapConditions f).transitionFindings domain seen index
          (rule.mapConditions f) = rules.transitionFindings domain seen index rule := rfl
      have edge : (rule.mapConditions f).edge = rule.edge := rfl
      rw [List.map_cons, transitionFindingsFrom, transitionFindingsFrom, first, edge, ih]

theorem DomainRules.findings_mapConditions (domain : String) (rules : DomainRules) :
    (rules.mapConditions f).findings domain = rules.findings domain := by
  have transitions : (rules.mapConditions f).transitionFindingsFrom domain 0 []
      (rules.mapConditions f).transitions =
        rules.transitionFindingsFrom domain 0 [] rules.transitions :=
    rules.transitionFindingsFrom_mapConditions domain rules.transitions 0 []
  rw [findings, findings, transitions]
  congr 1
  simp [groupFindings, mapConditions, GroupRule.mapConditions, Dict.mapEntries,
    List.flatMap_map, List.mapIdx_eq_zipIdx_map, List.zipIdx_map, Function.comp_def]

/-- Conditions play no part in what is found in a document. -/
theorem Document.findings_mapConditions (document : Document) :
    (document.mapConditions f).findings = document.findings := by
  have defaultDomain : (document.mapConditions f).defaultDomainFindings =
      document.defaultDomainFindings := by
    have contains (domain : String) : (document.mapConditions f).domains.contains domain =
        document.domains.contains domain := by
      rw [Dict.contains, mapConditions, Dict.find?_mapEntries, Option.isSome_map]
      rfl
    simp only [defaultDomainFindings, contains]
    rfl
  rw [findings, findings, defaultDomain]
  simp [mapConditions, Dict.mapEntries, List.flatMap_map, DomainRules.findings_mapConditions]

end Registry

end WorkflowGuard
