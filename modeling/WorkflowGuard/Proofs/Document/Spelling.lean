import WorkflowGuard.Document.Json
import WorkflowGuard.Proofs.Json.Records

/-!
# What a document that was read can hold

The readers of records and lists take any spelling, but what they give is limited: a condition
that came from a text never compares with a bare `null`, and its arrays and objects are in the
form in which they are written, at the depth at which the condition stands. `Spellable` says so
of the literals of a document, and this is all that a later reading of the canonical text needs
to know about the first one. A document made in memory may also hold a bare `null`: it can be
written, but it is read as a missing value, so the document comes back `withoutNulls`.
-/

namespace WorkflowGuard

open Json (Node Value)

namespace Literal

/-- The literal can come from a text, at the given depth. -/
def Spellable (depth : Nat) : Literal → Prop
  | bool _ | number _ | text _ => True
  | structured value =>
    value ≠ .null ∧ ofNode? depth (Node.ofValue value) = some (structured value) ∧
      ∀ number ∈ value.numbers, number.Representable

/-- The literal can be written for the given depth: a bare `null` too, which is read as nothing. -/
def Writable (depth : Nat) (literal : Literal) : Prop :=
  literal = structured .null ∨ literal.Spellable depth

def isNull : Literal → Bool
  | structured .null => true
  | _ => false

theorem isNull_iff {literal : Literal} : literal.isNull = true ↔ literal = structured .null := by
  unfold isNull
  split
  · exact ⟨fun _ => rfl, fun _ => rfl⟩
  next notNull => exact ⟨Bool.noConfusion, fun isNull => absurd isNull notNull⟩

theorem Spellable.isNull_eq_false {depth : Nat} {literal : Literal}
    (spellable : literal.Spellable depth) : literal.isNull = false := by
  refine Bool.eq_false_iff.mpr fun isTrue => ?_
  rw [isNull_iff.mp isTrue] at spellable
  exact spellable.1 rfl

/-- An array or an object that was read as data can be spelled again at the same depth. -/
theorem spellable_of_isData {depth : Nat} {node : Node} {value : Value}
    (isData : Node.IsData depth node value) (representable : node.Representable)
    (compound : (∃ elements, value = .array elements) ∨ ∃ members, value = .object members) :
    (structured value).Spellable depth := by
  have numbers : ∀ number ∈ value.numbers, number.Representable :=
    fun number mem => representable number (isData.numbers number mem)
  have readBack := congrArg (Option.map structured) isData.readBack
  rcases compound with ⟨_, rfl⟩ | ⟨_, rfl⟩ <;> exact ⟨Value.noConfusion, readBack, numbers⟩

/-- A literal that was read can be spelled, unless it was read from a bare `null`. -/
theorem spellable_of_ofNode? {depth : Nat} {node : Node} {literal : Literal}
    (notNull : node ≠ .null) (representable : node.Representable)
    (isRead : ofNode? depth node = some literal) : literal.Spellable depth := by
  cases node with
  | null => exact absurd rfl notNull
  | bool value =>
      cases isRead
      trivial
  | number content =>
      rcases Option.map_eq_some_iff.mp isRead with ⟨_, -, rfl⟩
      trivial
  | text content =>
      rcases Option.map_eq_some_iff.mp isRead with ⟨_, -, rfl⟩
      trivial
  | array elements =>
      rcases Option.map_eq_some_iff.mp isRead with ⟨value, isValue, rfl⟩
      refine spellable_of_isData (Node.isData_of_value? isValue) representable (.inl ?_)
      rw [Node.value?] at isValue
      split at isValue
      next => cases isValue
      next =>
          rcases Option.map_eq_some_iff.mp isValue with ⟨values, -, rfl⟩
          exact ⟨values, rfl⟩
  | object members =>
      rcases Option.map_eq_some_iff.mp isRead with ⟨value, isValue, rfl⟩
      refine spellable_of_isData (Node.isData_of_value? isValue) representable (.inr ?_)
      rw [Node.value?] at isValue
      split at isValue
      next => cases isValue
      next =>
          rcases Option.map_eq_some_iff.mp isValue with ⟨pairs, -, rfl⟩
          exact ⟨Assoc.ofPairs pairs, rfl⟩

end Literal

namespace Descriptor

def Spellable (depth : Nat) (descriptor : Descriptor) : Prop :=
  ∀ literal ∈ descriptor.value, literal.Spellable depth

def Writable (depth : Nat) (descriptor : Descriptor) : Prop :=
  ∀ literal ∈ descriptor.value, literal.Writable depth

/-- The descriptor with a bare `null` taken as a missing value. -/
def withoutNull (descriptor : Descriptor) : Descriptor :=
  { descriptor with value := descriptor.value.filter fun literal => !literal.isNull }

theorem Spellable.writable {depth : Nat} {descriptor : Descriptor}
    (spellable : descriptor.Spellable depth) : descriptor.Writable depth :=
  fun literal mem => .inr (spellable literal mem)

/-- A spellable descriptor has no bare `null` that could be left out. -/
theorem Spellable.withoutNull_eq {depth : Nat} {descriptor : Descriptor}
    (spellable : descriptor.Spellable depth) : descriptor.withoutNull = descriptor := by
  rcases descriptor with ⟨role, field, operator, value⟩
  cases value with
  | none => rfl
  | some literal =>
      simp [withoutNull, (spellable literal rfl).isNull_eq_false]

/-- The reader takes a bare `null` for a missing value, so what it reads can be spelled. -/
theorem spellable_of_ofNode? {depth : Nat} {node : Node} {descriptor : Descriptor}
    (representable : node.Representable) (isRead : ofNode? (depth + 1) node = some descriptor) :
    descriptor.Spellable depth := by
  rcases Node.record?_eq_some isRead with ⟨less, fields, isSucc, areFields, isRead⟩
  obtain rfl : depth = less := by omega
  rcases Option.bind_eq_some_iff.mp isRead with ⟨role, -, isRead⟩
  rcases Option.bind_eq_some_iff.mp isRead with ⟨field, -, isRead⟩
  rcases Option.bind_eq_some_iff.mp isRead with ⟨operator, -, isRead⟩
  rcases Option.bind_eq_some_iff.mp isRead with ⟨value, valueRead, same⟩
  cases same
  intro literal isLiteral
  obtain rfl : value = some literal := isLiteral
  rcases Node.fieldOr?_eq_some valueRead with absent | ⟨member, memberMem, memberRead⟩
  · cases absent
  · rcases Node.optional?_eq_some memberRead with ⟨notNull, literalRead⟩
    exact Literal.spellable_of_ofNode? notNull
      (Node.fields?_representable areFields representable member memberMem) literalRead

/-- Conditions of a rule, which may be left out. -/
theorem spellable_of_conditions {depth : Nat} {fields : List (String × Node)}
    {conditions : List Descriptor} (representable : ∀ field ∈ fields, field.2.Representable)
    (areRead : Node.fieldOr? fields "conditions" [] (listOfNode? (depth + 2)) = some conditions) :
    ∀ descriptor ∈ conditions, descriptor.Spellable depth := by
  rcases Node.fieldOr?_eq_some areRead with rfl | ⟨member, memberMem, isList⟩
  · exact List.forall_mem_nil _
  · rcases Node.list?_eq_some isList (representable member memberMem) with ⟨less, isSucc, elements⟩
    obtain rfl : less = depth + 1 := by omega
    intro descriptor mem
    rcases elements descriptor mem with ⟨element, elementRepresentable, elementRead⟩
    exact spellable_of_ofNode? elementRepresentable elementRead

end Descriptor

theorem TransitionRule.spellable_of_ofNode? {depth : Nat} {node : Node} {rule : TransitionRule}
    (representable : node.Representable) (isRead : ofNode? (depth + 3) node = some rule) :
    ∀ descriptor ∈ rule.conditions, descriptor.Spellable depth := by
  rcases Node.record?_eq_some isRead with ⟨less, fields, isSucc, areFields, isRead⟩
  obtain rfl : less = depth + 2 := by omega
  rcases Option.bind_eq_some_iff.mp isRead with ⟨source, -, isRead⟩
  rcases Option.bind_eq_some_iff.mp isRead with ⟨target, -, isRead⟩
  rcases Option.bind_eq_some_iff.mp isRead with ⟨conditions, areConditions, same⟩
  cases same
  exact Descriptor.spellable_of_conditions
    (Node.fields?_representable areFields representable) areConditions

theorem GroupRule.spellable_of_ofNode? {depth : Nat} {node : Node} {rule : GroupRule}
    (representable : node.Representable) (isRead : ofNode? (depth + 3) node = some rule) :
    ∀ descriptor ∈ rule.conditions, descriptor.Spellable depth := by
  rcases Node.record?_eq_some isRead with ⟨less, fields, isSucc, areFields, isRead⟩
  obtain rfl : less = depth + 2 := by omega
  rcases Option.bind_eq_some_iff.mp isRead with ⟨name, -, isRead⟩
  rcases Option.bind_eq_some_iff.mp isRead with ⟨multiplier, -, isRead⟩
  rcases Option.bind_eq_some_iff.mp isRead with ⟨conditions, areConditions, same⟩
  cases same
  exact Descriptor.spellable_of_conditions
    (Node.fields?_representable areFields representable) areConditions

def TransitionRule.mapConditions (f : Descriptor → Descriptor) (rule : TransitionRule) :
    TransitionRule :=
  { rule with conditions := rule.conditions.map f }

def GroupRule.mapConditions (f : Descriptor → Descriptor) (rule : GroupRule) : GroupRule :=
  { rule with conditions := rule.conditions.map f }

namespace DomainRules

def mapConditions (f : Descriptor → Descriptor) (rules : DomainRules) : DomainRules where
  workflow := rules.workflow
  transitions := rules.transitions.map (·.mapConditions f)
  groups := rules.groups.mapEntries fun _ entries => entries.map (·.mapConditions f)

/-- Each condition of a transition has the one property, each condition of a group the other. -/
structure EachCondition (transition group : Descriptor → Prop) (rules : DomainRules) : Prop where
  transitions : ∀ rule ∈ rules.transitions, ∀ descriptor ∈ rule.conditions, transition descriptor
  groups : ∀ entry ∈ rules.groups.entries, ∀ rule ∈ entry.2, ∀ descriptor ∈ rule.conditions,
    group descriptor

theorem EachCondition.imp {transition group transition' group' : Descriptor → Prop}
    {rules : DomainRules} (each : rules.EachCondition transition group)
    (transitionImp : ∀ descriptor, transition descriptor → transition' descriptor)
    (groupImp : ∀ descriptor, group descriptor → group' descriptor) :
    rules.EachCondition transition' group' where
  transitions rule mem descriptor descriptorMem :=
    transitionImp descriptor (each.transitions rule mem descriptor descriptorMem)
  groups entry entryMem rule mem descriptor descriptorMem :=
    groupImp descriptor (each.groups entry entryMem rule mem descriptor descriptorMem)

theorem EachCondition.mapConditions_eq {f : Descriptor → Descriptor} {rules : DomainRules}
    (fixed : rules.EachCondition (fun descriptor => f descriptor = descriptor)
      fun descriptor => f descriptor = descriptor) :
    rules.mapConditions f = rules := by
  have transitions : rules.transitions.map (·.mapConditions f) = rules.transitions := by
    refine (List.map_congr_left fun rule mem => ?_).trans rules.transitions.map_id
    rw [TransitionRule.mapConditions, List.map_congr_left (fixed.transitions rule mem),
      List.map_id']
    rfl
  have groups : (rules.groups.mapEntries fun _ entries => entries.map (·.mapConditions f)) =
      rules.groups := by
    refine Dict.mapEntries_eq_self fun entry entryMem => ?_
    refine (List.map_congr_left fun rule mem => ?_).trans entry.2.map_id
    rw [GroupRule.mapConditions, List.map_congr_left (fixed.groups entry entryMem rule mem),
      List.map_id']
    rfl
  rw [mapConditions, transitions, groups]

/-- The literals of the rules of a domain can come from a text; those of a group stand one level
deeper than those of a transition. -/
def Spellable (depth : Nat) : DomainRules → Prop :=
  EachCondition (Descriptor.Spellable (depth + 1)) (Descriptor.Spellable depth)

def Writable (depth : Nat) : DomainRules → Prop :=
  EachCondition (Descriptor.Writable (depth + 1)) (Descriptor.Writable depth)

/-- Every condition that is read with a domain can be spelled at the depth left for it. -/
theorem spellable_of_ofNode? {depth : Nat} {node : Node} {rules : DomainRules}
    (representable : node.Representable) (isRead : ofNode? (depth + 6) node = some rules) :
    rules.Spellable depth := by
  rcases Node.record?_eq_some isRead with ⟨less, fields, isSucc, areFields, isRead⟩
  obtain rfl : less = depth + 5 := by omega
  have fieldsRepresentable := Node.fields?_representable areFields representable
  rcases Option.bind_eq_some_iff.mp isRead with ⟨workflow, -, isRead⟩
  rcases Option.bind_eq_some_iff.mp isRead with ⟨transitions, areTransitions, isRead⟩
  rcases Option.bind_eq_some_iff.mp isRead with ⟨groups, areGroups, same⟩
  cases same
  constructor
  · rcases Node.fieldOr?_eq_some areTransitions with rfl | ⟨member, memberMem, isList⟩
    · exact List.forall_mem_nil _
    · rcases Node.list?_eq_some isList (fieldsRepresentable member memberMem) with
          ⟨less, isSucc, elements⟩
      obtain rfl : less = depth + 1 + 3 := by omega
      intro rule mem
      rcases elements rule mem with ⟨element, elementRepresentable, elementRead⟩
      exact TransitionRule.spellable_of_ofNode? elementRepresentable elementRead
  · rcases Node.fieldOr?_eq_some areGroups with rfl | ⟨member, memberMem, isDict⟩
    · exact List.forall_mem_nil _
    · rcases Node.dict?_eq_some isDict (fieldsRepresentable member memberMem) with
          ⟨less, isSucc, entries⟩
      obtain rfl : less = depth + 4 := by omega
      intro group mem
      rcases entries group mem with ⟨list, listRepresentable, isList⟩
      rcases Node.list?_eq_some isList listRepresentable with ⟨less, isSucc, elements⟩
      obtain rfl : less = depth + 3 := by omega
      intro rule ruleMem
      rcases elements rule ruleMem with ⟨element, elementRepresentable, elementRead⟩
      exact GroupRule.spellable_of_ofNode? elementRepresentable elementRead

end DomainRules

namespace Document

def mapConditions (f : Descriptor → Descriptor) (document : Document) : Document :=
  { document with domains := document.domains.mapEntries fun _ rules => rules.mapConditions f }

/-- The document with every bare `null` in a condition taken as a missing value. -/
def withoutNulls : Document → Document :=
  mapConditions Descriptor.withoutNull

def EachCondition (transition group : Descriptor → Prop) (document : Document) : Prop :=
  ∀ entry ∈ document.domains.entries, entry.2.EachCondition transition group

/-- The literals of the document can come from a text; those of groups stand at the depth. -/
def Spellable (depth : Nat) : Document → Prop :=
  EachCondition (Descriptor.Spellable (depth + 1)) (Descriptor.Spellable depth)

/-- The literals of the document can be written; those of groups stand at the depth. -/
def Writable (depth : Nat) : Document → Prop :=
  EachCondition (Descriptor.Writable (depth + 1)) (Descriptor.Writable depth)

theorem Spellable.writable {depth : Nat} {document : Document}
    (spellable : document.Spellable depth) : document.Writable depth :=
  fun entry mem => (spellable entry mem).imp (fun _ => Descriptor.Spellable.writable)
    fun _ => Descriptor.Spellable.writable

theorem Spellable.withoutNulls_eq {depth : Nat} {document : Document}
    (spellable : document.Spellable depth) : document.withoutNulls = document := by
  have domains : (document.domains.mapEntries fun _ rules =>
      rules.mapConditions Descriptor.withoutNull) = document.domains :=
    Dict.mapEntries_eq_self fun entry mem =>
      ((spellable entry mem).imp (fun _ => Descriptor.Spellable.withoutNull_eq)
        fun _ => Descriptor.Spellable.withoutNull_eq).mapConditions_eq
  rw [withoutNulls, mapConditions, domains]

theorem spellable_of_ofNode? {depth : Nat} {node : Node} {document : Document}
    (representable : node.Representable) (isRead : ofNode? (depth + 8) node = some document) :
    document.Spellable depth := by
  rcases Node.record?_eq_some isRead with ⟨less, fields, isSucc, areFields, isRead⟩
  obtain rfl : less = depth + 7 := by omega
  rcases Option.bind_eq_some_iff.mp isRead with ⟨policies, -, isRead⟩
  rcases Option.bind_eq_some_iff.mp isRead with ⟨defaultDomain, -, isRead⟩
  rcases Option.bind_eq_some_iff.mp isRead with ⟨domains, areDomains, same⟩
  cases same
  rcases Node.fieldOr?_eq_some areDomains with rfl | ⟨member, memberMem, isDict⟩
  · exact List.forall_mem_nil _
  · obtain ⟨less, isSucc, entries⟩ := Node.dict?_eq_some isDict
      (Node.fields?_representable areFields representable member memberMem)
    obtain rfl : less = depth + 6 := by omega
    intro entry mem
    rcases entries entry mem with ⟨rules, rulesRepresentable, rulesRead⟩
    exact DomainRules.spellable_of_ofNode? rulesRepresentable rulesRead

/-- The depth at which literals of group rules stand in a document. -/
def literalDepth : Nat :=
  Json.maxDepth - 8

/-- Every document that is read from a text can be spelled. -/
theorem spellable_of_parse? {bytes : Bytes} {document : Document}
    (isRead : parse? bytes = some document) : document.Spellable literalDepth := by
  rcases Option.bind_eq_some_iff.mp isRead with ⟨node, nodeRead, isRead⟩
  exact spellable_of_ofNode? (Node.read?_representable nodeRead) isRead

end Document

end WorkflowGuard
