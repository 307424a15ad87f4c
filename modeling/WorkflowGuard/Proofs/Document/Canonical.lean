import WorkflowGuard.Document.Validation
import WorkflowGuard.Proofs.Document.Numbers

/-!
# Canonical text reads back

A document whose literals can be written and whose doubles survive the number reader is read
from its canonical text as it is, but for the bare `null`s in its conditions, which are read as
missing values. The argument follows the records: the tree of the canonical text is the tree of
the document as data, every field of it is found under its name, and each reader gives back what
the matching writer was given. A document that was read from any text holds no bare `null`, so
reading is a projection onto canonical texts.
-/

namespace WorkflowGuard

open Json (Node Value)

theorem optional?_text (content : String) :
    (Node.ofValue (.text content)).optional? (·.text?) = some (some content) :=
  rfl

theorem dict?_toValue {α : Type} {read : Nat → Node → Option α} {depth : Nat} {write : α → Value}
    {spelled : α → α} {dict : Dict α}
    (readBack : ∀ entry ∈ dict.entries,
      read depth (Node.ofValue (write entry.2)) = some (spelled entry.2)) :
    Node.dict? read (depth + 1) (Node.ofValue (dict.toValue write)) =
      some (dict.mapEntries fun _ => spelled) :=
  Node.dict?_written readBack

/-- A literal that can be written is read as it is, or as nothing if it is `null`. -/
theorem Literal.ofNode?_written {depth : Nat} {literal : Literal}
    (writable : literal.Writable depth) (finite : ∀ double ∈ literal.doubles, double.isFinite) :
    (Node.ofValue literal.toValue).optional? (ofNode? depth) =
      some (if literal.isNull then none else some literal) := by
  cases literal with
  | bool value => rfl
  | number value =>
      rw [toValue, if_pos (finite value List.mem_cons_self)]
      rfl
  | text value => rfl
  | structured value =>
      rcases writable with isNull | spellable
      · cases isNull
        rfl
      rw [spellable.isNull_eq_false]
      rcases spellable with ⟨notNull, readBack, -⟩
      have treeNotNull : Node.ofValue value ≠ .null := by
        cases value <;> first | exact absurd rfl notNull | exact Node.noConfusion
      rw [toValue, Node.optional?_of_ne_null treeNotNull, readBack]
      rfl

/-- The members that a descriptor is written with. -/
theorem Descriptor.toValue_eq_object (descriptor : Descriptor) :
    ∃ members, descriptor.toValue = .object members ∧
      (members.map Prod.fst).Sublist fieldNames ∧
      members.lookup "role" = descriptor.role.map .text ∧
      members.lookup "field" = descriptor.field.map .text ∧
      members.lookup "operator" = descriptor.operator.map .text ∧
      members.lookup "value" = descriptor.value.map Literal.toValue := by
  refine ⟨_, rfl, ?_, ?_⟩
  · simp only [List.map_append]
    exact (((Node.toList_sublist _ _ _).append (Node.toList_sublist _ _ _)).append
      (Node.toList_sublist _ _ _)).append (Node.toList_sublist _ _ _)
  · simp [List.lookup_append, Node.lookup_toList]

/-- A descriptor is read back from its own record, up to a bare `null`, which stands for nothing.
-/
theorem Descriptor.ofNode?_written {depth : Nat} {descriptor : Descriptor}
    (writable : descriptor.Writable depth)
    (finite : ∀ double ∈ descriptor.doubles, double.isFinite) :
    ofNode? (depth + 1) (Node.ofValue descriptor.toValue) = some descriptor.withoutNull := by
  rcases descriptor.toValue_eq_object with
      ⟨members, isObject, inOrder, role, field, operator, value⟩
  have literal : Node.fieldOr? (Node.fieldsOf members) "value" none
      (·.optional? (Literal.ofNode? depth)) = some descriptor.withoutNull.value := by
    rw [Node.fieldOr?, Node.lookup_fieldsOf, value, withoutNull]
    cases isValue : descriptor.value with
    | none => rfl
    | some literal =>
        have doubles : ∀ double ∈ literal.doubles, double.isFinite := fun double mem =>
          finite double (List.mem_flatMap.mpr ⟨literal, Option.mem_toList.mpr isValue, mem⟩)
        have read := Literal.ofNode?_written (writable literal isValue) doubles
        cases isNull : literal.isNull <;> simpa [isNull, Option.filter_some] using read
  rw [isObject, ofNode?, Node.record?_written (by decide) inOrder,
    Node.fieldOr?_optional role fun text _ => optional?_text text,
    Node.fieldOr?_optional field fun text _ => optional?_text text,
    Node.fieldOr?_optional operator fun text _ => optional?_text text, literal]
  rfl

theorem Descriptor.listOfNode?_written {depth : Nat} {conditions : List Descriptor}
    (writable : ∀ descriptor ∈ conditions, descriptor.Writable depth)
    (finite : ∀ double ∈ conditions.flatMap Descriptor.doubles, double.isFinite) :
    listOfNode? (depth + 2) (Node.ofValue (.array (conditions.map Descriptor.toValue))) =
      some (conditions.map withoutNull) :=
  Node.list?_written fun descriptor mem =>
    ofNode?_written (writable descriptor mem) fun double doubleMem =>
      finite double (List.mem_flatMap.mpr ⟨descriptor, mem, doubleMem⟩)

theorem TransitionRule.toValue_eq_object (rule : TransitionRule) :
    ∃ members, rule.toValue = .object members ∧
      (members.map Prod.fst).Sublist ["from", "to", "conditions"] ∧
      members.lookup "from" = some (.text rule.source) ∧
      members.lookup "to" = some (.text rule.target) ∧
      members.lookup "conditions" = some (.array (rule.conditions.map Descriptor.toValue)) :=
  ⟨_, rfl, List.Sublist.refl _, rfl, rfl, rfl⟩

theorem TransitionRule.ofNode?_written {depth : Nat} {rule : TransitionRule}
    (writable : ∀ descriptor ∈ rule.conditions, descriptor.Writable depth)
    (finite : ∀ double ∈ rule.doubles, double.isFinite) :
    ofNode? (depth + 3) (Node.ofValue rule.toValue) =
      some (rule.mapConditions Descriptor.withoutNull) := by
  rcases rule.toValue_eq_object with ⟨members, isObject, inOrder, source, target, conditions⟩
  rw [isObject, ofNode?, Node.record?_written (by decide) inOrder,
    Node.required?_written source, Node.required?_written target,
    Node.fieldOr?_written conditions (Descriptor.listOfNode?_written writable finite)]
  rfl

/-- A name or a multiplier that is missing is left out of the record. -/
theorem GroupRule.toValue_eq_object (rule : GroupRule) :
    ∃ members, rule.toValue = .object members ∧
      (members.map Prod.fst).Sublist ["name", "multiplier", "conditions"] ∧
      members.lookup "name" = rule.name.map .text ∧
      members.lookup "multiplier" = rule.multiplier.map factorValue ∧
      members.lookup "conditions" = some (.array (rule.conditions.map Descriptor.toValue)) := by
  refine ⟨_, rfl, ?_, ?_⟩
  · simp only [List.map_append]
    exact ((Node.toList_sublist _ _ _).append (Node.toList_sublist _ _ _)).append
      (List.Sublist.refl _)
  · simp [List.lookup_append, Node.lookup_toList, List.lookup_cons]

theorem GroupRule.ofNode?_written {depth : Nat} {rule : GroupRule}
    (writable : ∀ descriptor ∈ rule.conditions, descriptor.Writable depth)
    (finite : ∀ double ∈ rule.doubles, double.isFinite) :
    ofNode? (depth + 3) (Node.ofValue rule.toValue) =
      some (rule.mapConditions Descriptor.withoutNull) := by
  rcases List.forall_mem_append.mp finite with ⟨multiplierFinite, conditionsFinite⟩
  have factor : ∀ factor ∈ rule.multiplier,
      (Node.ofValue (factorValue factor)).optional? (·.float?) = some (some factor) := by
    intro factor mem
    rw [factorValue, if_pos (multiplierFinite factor (Option.mem_toList.mpr mem))]
    rfl
  rcases rule.toValue_eq_object with ⟨members, isObject, inOrder, name, multiplier, conditions⟩
  rw [isObject, ofNode?, Node.record?_written (by decide) inOrder,
    Node.fieldOr?_optional name fun text _ => optional?_text text,
    Node.fieldOr?_optional multiplier factor,
    Node.fieldOr?_written conditions (Descriptor.listOfNode?_written writable conditionsFinite)]
  rfl

theorem DomainRules.toValue_eq_object (rules : DomainRules) :
    ∃ members, rules.toValue = .object members ∧
      (members.map Prod.fst).Sublist ["workflow", "transitions", "rule_groups"] ∧
      members.lookup "workflow" =
        some (rules.workflow.toValue fun targets => .array (targets.map .text)) ∧
      members.lookup "transitions" =
        some (.array (rules.transitions.map TransitionRule.toValue)) ∧
      members.lookup "rule_groups" =
        some (rules.groups.toValue fun entries => .array (entries.map GroupRule.toValue)) :=
  ⟨_, rfl, List.Sublist.refl _, rfl, rfl, rfl⟩

theorem DomainRules.ofNode?_written {depth : Nat} {rules : DomainRules}
    (writable : rules.Writable depth) (finite : ∀ double ∈ rules.doubles, double.isFinite) :
    ofNode? (depth + 6) (Node.ofValue rules.toValue) =
      some (rules.mapConditions Descriptor.withoutNull) := by
  rcases List.forall_mem_append.mp finite with ⟨transitionsFinite, groupsFinite⟩
  have workflow : Node.dict? (Node.list? fun _ target => target.text?) (depth + 5)
      (Node.ofValue (rules.workflow.toValue fun targets => .array (targets.map .text))) =
        some rules.workflow := by
    rw [dict?_toValue fun entry _ => Node.list?_written fun target _ => rfl]
    exact congrArg some (Dict.mapEntries_eq_self fun entry _ => List.map_id' entry.2)
  have transitions : Node.list? TransitionRule.ofNode? (depth + 5)
      (Node.ofValue (.array (rules.transitions.map TransitionRule.toValue))) =
        some (rules.transitions.map (·.mapConditions Descriptor.withoutNull)) :=
    Node.list?_written fun rule mem =>
      TransitionRule.ofNode?_written (writable.transitions rule mem) fun double doubleMem =>
        transitionsFinite double (List.mem_flatMap.mpr ⟨rule, mem, doubleMem⟩)
  have groups : Node.dict? (Node.list? GroupRule.ofNode?) (depth + 5)
      (Node.ofValue (rules.groups.toValue fun entries => .array (entries.map GroupRule.toValue))) =
        some (rules.groups.mapEntries fun _ entries =>
          entries.map (·.mapConditions Descriptor.withoutNull)) :=
    dict?_toValue fun group groupMem => Node.list?_written fun rule mem =>
      GroupRule.ofNode?_written (writable.groups group groupMem rule mem) fun double doubleMem =>
        groupsFinite double (List.mem_flatMap.mpr
          ⟨group.2, List.mem_map_of_mem groupMem, List.mem_flatMap.mpr ⟨rule, mem, doubleMem⟩⟩)
  rcases rules.toValue_eq_object with
      ⟨members, isObject, inOrder, isWorkflow, areTransitions, areGroups⟩
  rw [isObject, ofNode?, Node.record?_written (by decide) inOrder,
    Node.fieldOr?_written isWorkflow workflow, Node.fieldOr?_written areTransitions transitions,
    Node.fieldOr?_written areGroups groups]
  rfl

theorem Policy.ofNode?_written (depth : Nat) (policy : Policy) :
    ofNode? depth (Node.ofValue (.text policy.name)) = some policy := by
  cases policy <;> rfl

theorem Policies.toValue_eq_object (policies : Policies) :
    ∃ members, policies.toValue = .object members ∧
      (members.map Prod.fst).Sublist ["transition", "group"] ∧
      members.lookup "transition" = some (.text policies.transition.name) ∧
      members.lookup "group" = some (.text policies.group.name) :=
  ⟨_, rfl, List.Sublist.refl _, rfl, rfl⟩

theorem Policies.ofNode?_written (depth : Nat) (policies : Policies) :
    ofNode? (depth + 1) (Node.ofValue policies.toValue) = some policies := by
  rcases policies.toValue_eq_object with ⟨members, isObject, inOrder, transition, group⟩
  rw [isObject, ofNode?, Node.record?_written (by decide) inOrder,
    Node.fieldOr?_written transition (Policy.ofNode?_written depth _),
    Node.fieldOr?_written group (Policy.ofNode?_written depth _)]
  rfl

namespace Document

theorem toValue_eq_object (document : Document) :
    ∃ members, document.toValue = .object members ∧
      (members.map Prod.fst).Sublist ["defaults", "default_domain", "domains"] ∧
      members.lookup "defaults" = some document.policies.toValue ∧
      members.lookup "default_domain" = document.defaultDomain.map .text ∧
      members.lookup "domains" = some (document.domains.toValue DomainRules.toValue) := by
  refine ⟨_, rfl, ?_, ?_⟩
  · simp only [List.map_append, List.map_cons]
    exact ((Node.toList_sublist _ _ _).append (List.Sublist.refl _)).cons_cons _
  · simp [List.lookup_append, Node.lookup_toList, List.lookup_cons]

/-- A document is read back from its own record without the bare nulls of its conditions. -/
theorem ofNode?_written {depth : Nat} {document : Document}
    (writable : document.Writable depth)
    (finite : ∀ double ∈ document.doubles, double.isFinite) :
    ofNode? (depth + 8) (Node.ofValue document.toValue) = some document.withoutNulls := by
  have domains : Node.dict? DomainRules.ofNode? (depth + 7)
      (Node.ofValue (document.domains.toValue DomainRules.toValue)) =
        some document.withoutNulls.domains :=
    dict?_toValue fun entry mem =>
      DomainRules.ofNode?_written (writable entry mem) fun double doubleMem =>
        finite double (List.mem_flatMap.mpr ⟨entry.2, List.mem_map_of_mem mem, doubleMem⟩)
  rcases document.toValue_eq_object with
      ⟨members, isObject, inOrder, policies, defaultDomain, isDomains⟩
  rw [isObject, ofNode?, Node.record?_written (by decide) inOrder,
    Node.fieldOr?_written policies (Policies.ofNode?_written _ _),
    Node.fieldOr?_optional defaultDomain fun text _ => optional?_text text,
    Node.fieldOr?_written isDomains domains]
  rfl

/-- A document that can be written is read from its canonical text as it is, but for the bare
`null`s in its conditions. -/
theorem parse?_canonicalBytes {document : Document} (writable : document.Writable literalDepth)
    (doubles : ∀ double ∈ document.doubles, ReadsBackAsWritten double) :
    parse? document.canonicalBytes = some document.withoutNulls := by
  have read := Node.read?_written document.toValue (document.toValue_readsBack writable doubles)
  rw [parse?, canonicalBytes, canonicalText, read]
  exact ofNode?_written writable fun double mem => (doubles double mem).isFinite

/-- What canonical text promises: it is read as the document, the document that is read has the
same canonical text, and loading accepts it just if the document is valid. -/
structure RoundTrips (document : Document) : Prop where
  reads : parse? document.canonicalBytes = some document
  sameBytes : ∀ reread, parse? document.canonicalBytes = some reread →
    reread.canonicalBytes = document.canonicalBytes
  accepted : (∃ loaded, (load document.canonicalBytes).value = .ok loaded) ↔
    document.validate.value = .ok ()

theorem RoundTrips.of_reads {document : Document}
    (reads : parse? document.canonicalBytes = some document) : document.RoundTrips := by
  refine ⟨reads, fun reread rereads => ?_, ?_⟩
  · rw [reads] at rereads
    rw [Option.some.inj rereads]
  · have isLoaded : (load document.canonicalBytes).value =
        Except.map (fun _ => document) document.validate.value := by
      rw [load, reads]
      rfl
    rw [isLoaded]
    cases document.validate.value with
    | ok => exact ⟨fun _ => rfl, fun _ => ⟨document, rfl⟩⟩
    | error fault =>
        constructor
        · rintro ⟨_, isOk⟩
          cases isOk
        · intro isOk
          cases isOk

/-- Whatever the spelling a document was read from, its canonical text round-trips, provided
that each of its doubles is read from its own text. -/
theorem canonicalText_roundTrips {bytes : Bytes} {document : Document}
    (isRead : parse? bytes = some document)
    (doubles : ∀ double ∈ document.doubles, ReadsBackAsWritten double) :
    document.RoundTrips := by
  have spellable := spellable_of_parse? isRead
  refine .of_reads ?_
  rw [parse?_canonicalBytes spellable.writable doubles, spellable.withoutNulls_eq]

/-- A spelling that is not canonical: records as arrays, a repeated group, an escape, a member
that is skipped, and an object with a repeated name inside a literal. -/
def oddSpelling : Bytes :=
  Text.utf8 ("[[\"deny\"],null,\x7b\"it\":\x7b\"note\":0,\"transitions\":" ++
    "[[\"\\u006fpen\",\"done\",[[\"agent\"]," ++
    "[null,\"f\",\"==\",[-3,\x7b\"b\":1,\"a\":2,\"b\":null\x7d]]]]]," ++
    "\"rule_groups\":\x7b\"g\":[],\"g\":[[\"first\",2]]\x7d\x7d\x7d]")

def oddlySpelled : Document where
  policies := { transition := .deny }
  domains := ⟨[("it",
    { transitions :=
        [{ source := "open"
           target := "done"
           conditions :=
            [{ role := some "agent" },
              { field := some "f"
                operator := some "=="
                value := some (.structured (.array [.number (.whole (-3)),
                  .object [("a", .number (.whole 2)), ("b", .null)]])) }] }]
      groups := ⟨[("g",
        [{ name := some "first", multiplier := some (Decimal.ofInt 2), conditions := [] }])],
        by decide⟩ })], by decide⟩

theorem two_readsBackAsWritten : ReadsBackAsWritten (Decimal.ofInt 2) := by
  have written : (GroupRule.factorValue (Decimal.ofInt 2)).render = "2.0" := by decide +kernel
  have numeral : Json.readNumeral? (Text.utf8 "2.0") = some (⟨false, [2], [0], none⟩, []) := by
    decide
  have value : Json.Numeral.scaled? 20 (-1) = some (Decimal.ofInt 2) := by decide +kernel
  rw [ReadsBackAsWritten, written, Json.readNumber?, numeral]
  change (Json.Numeral.scaled? 20 (-1)).map Json.Number.real = _
  rw [value]
  rfl

set_option maxRecDepth 2000 in
/-- Lists that stand for records, an escaped name and repeated names all disappear on the first
trip. -/
theorem canonicalText_roundTrips_oddlySpelled :
    parse? oddSpelling = some oddlySpelled ∧
      (∀ double ∈ oddlySpelled.doubles, ReadsBackAsWritten double) ∧
      oddlySpelled.RoundTrips := by
  have isRead : parse? oddSpelling = some oddlySpelled := rfl
  have doubles : ∀ double ∈ oddlySpelled.doubles, ReadsBackAsWritten double :=
    List.forall_mem_singleton.mpr two_readsBackAsWritten
  exact ⟨isRead, doubles, canonicalText_roundTrips isRead doubles⟩

end Document

end WorkflowGuard
