import WorkflowGuard.Proofs.Document.Spelling

/-!
# The numbers of a canonical text

The canonical text of a document holds two sorts of numbers: doubles, of which it is assumed
that each is read from its own text, and the whole numbers inside arrays and objects, which
survive because they have 64 bits. So every number in the text reads back, record by record.
-/

namespace WorkflowGuard

open Json (Node Value)

namespace Json

/-- The double of a number that is not kept as a whole number. -/
def Number.double? : Number → Option Float
  | .whole _ => none
  | .real value => some value

/-- All numbers of the value read back. -/
def Value.ReadsBack (value : Value) : Prop :=
  ∀ number ∈ value.numbers, number.ReadsBack

namespace Value.ReadsBack

theorem text (content : String) : (Value.text content).ReadsBack :=
  List.forall_mem_nil _

theorem number {content : Number} (readBack : content.ReadsBack) :
    (Value.number content).ReadsBack :=
  List.forall_mem_singleton.mpr readBack

theorem array {elements : List Value} (readBack : ∀ element ∈ elements, element.ReadsBack) :
    (Value.array elements).ReadsBack := by
  intro number mem
  rcases mem_elementNumbers.mp mem with ⟨element, elementMem, numberMem⟩
  exact readBack element elementMem number numberMem

theorem object {members : List (String × Value)}
    (readBack : ∀ member ∈ members, member.2.ReadsBack) : (Value.object members).ReadsBack := by
  intro number mem
  rcases mem_memberNumbers.mp mem with ⟨member, memberMem, numberMem⟩
  exact readBack member memberMem number numberMem

/-- A member of a record that is left out if it has no content. -/
theorem toList {α : Type} {name : String} {content : Option α} {write : α → Value}
    (readBack : ∀ value ∈ content, (write value).ReadsBack) :
    ∀ member ∈ (content.map fun value => (name, write value)).toList, member.2.ReadsBack := by
  intro member mem
  rcases Option.map_eq_some_iff.mp (Option.mem_toList.mp mem) with ⟨value, isContent, rfl⟩
  exact readBack value isContent

end Value.ReadsBack

end Json

/-- The text that is written for the double is read as the double. The text of a double that is
not finite is `null`, so this does not hold of one. -/
def ReadsBackAsWritten (double : Float) : Prop :=
  Json.readNumber? (Text.utf8 (GroupRule.factorValue double).render) = some (.real double)

namespace ReadsBackAsWritten

variable {double : Float}

/-- An infinite double is written as `null` and is not read back. -/
theorem isFinite (readBack : ReadsBackAsWritten double) : double.isFinite = true := by
  cases finite : double.isFinite with
  | true => rfl
  | false =>
      have writtenNull : GroupRule.factorValue double = .null := by
        simp [GroupRule.factorValue, finite]
      have unread : Json.readNumber? (Text.utf8 Value.null.render) = none := by decide
      rw [ReadsBackAsWritten, writtenNull, unread] at readBack
      cases readBack

/-- A double that is read from its own text is also read back as part of a text. -/
theorem readsBack (readBack : ReadsBackAsWritten double) :
    (Json.Number.real double).ReadsBack := by
  have finite := readBack.isFinite
  rw [ReadsBackAsWritten, GroupRule.factorValue, if_pos finite, Value.render, Value.write,
    String.ofList_toList] at readBack
  exact readBack

end ReadsBackAsWritten

/-- The doubles in a literal: the number itself, or those inside an array or object. -/
def Literal.doubles : Literal → List Float
  | bool _ | text _ => []
  | number value => [value]
  | structured value => value.numbers.filterMap Json.Number.double?

def Descriptor.doubles (descriptor : Descriptor) : List Float :=
  descriptor.value.toList.flatMap Literal.doubles

def TransitionRule.doubles (rule : TransitionRule) : List Float :=
  rule.conditions.flatMap Descriptor.doubles

def GroupRule.doubles (rule : GroupRule) : List Float :=
  rule.multiplier.toList ++ rule.conditions.flatMap Descriptor.doubles

def DomainRules.doubles (rules : DomainRules) : List Float :=
  rules.transitions.flatMap TransitionRule.doubles ++
    rules.groups.values.flatMap fun entries => entries.flatMap GroupRule.doubles

/-- The doubles that occur in a document: multipliers, and those of the literals. -/
def Document.doubles (document : Document) : List Float :=
  document.domains.values.flatMap DomainRules.doubles

/-- The numbers in a literal read back if its doubles do; whole numbers always do. -/
theorem Literal.toValue_readsBack {depth : Nat} {literal : Literal}
    (writable : literal.Writable depth)
    (doubles : ∀ double ∈ literal.doubles, ReadsBackAsWritten double) :
    literal.toValue.ReadsBack := by
  cases literal with
  | bool value => exact List.forall_mem_nil _
  | number value =>
      have readBack := doubles value List.mem_cons_self
      rw [toValue, if_pos readBack.isFinite]
      exact .number readBack.readsBack
  | text value => exact .text value
  | structured value =>
      rcases writable with isNull | ⟨-, -, representable⟩
      · cases isNull
        exact List.forall_mem_nil _
      intro number mem
      cases number with
      | whole content => exact Json.Number.readsBack_whole (representable _ mem)
      | real content =>
          exact (doubles content (List.mem_filterMap.mpr ⟨_, mem, rfl⟩)).readsBack

theorem Descriptor.toValue_readsBack {depth : Nat} {descriptor : Descriptor}
    (writable : descriptor.Writable depth)
    (doubles : ∀ double ∈ descriptor.doubles, ReadsBackAsWritten double) :
    descriptor.toValue.ReadsBack := by
  have literal : ∀ literal ∈ descriptor.value, literal.toValue.ReadsBack := fun literal mem =>
    Literal.toValue_readsBack (writable literal mem) fun double doubleMem =>
      doubles double (List.mem_flatMap.mpr ⟨literal, Option.mem_toList.mpr mem, doubleMem⟩)
  refine .object ?_
  simp only [List.forall_mem_append]
  exact ⟨⟨⟨.toList fun role _ => .text role, .toList fun field _ => .text field⟩,
    .toList fun operator _ => .text operator⟩, .toList literal⟩

theorem Descriptor.conditions_readsBack {depth : Nat} {conditions : List Descriptor}
    (writable : ∀ descriptor ∈ conditions, descriptor.Writable depth)
    (doubles : ∀ double ∈ conditions.flatMap Descriptor.doubles, ReadsBackAsWritten double) :
    (Value.array (conditions.map Descriptor.toValue)).ReadsBack :=
  .array <| List.forall_mem_map.mpr fun descriptor mem =>
    toValue_readsBack (writable descriptor mem) fun double doubleMem =>
      doubles double (List.mem_flatMap.mpr ⟨descriptor, mem, doubleMem⟩)

theorem TransitionRule.toValue_readsBack {depth : Nat} {rule : TransitionRule}
    (writable : ∀ descriptor ∈ rule.conditions, descriptor.Writable depth)
    (doubles : ∀ double ∈ rule.doubles, ReadsBackAsWritten double) :
    rule.toValue.ReadsBack := by
  refine .object ?_
  simp only [List.forall_mem_cons]
  exact ⟨.text _, .text _, Descriptor.conditions_readsBack writable doubles,
    List.forall_mem_nil _⟩

theorem GroupRule.toValue_readsBack {depth : Nat} {rule : GroupRule}
    (writable : ∀ descriptor ∈ rule.conditions, descriptor.Writable depth)
    (doubles : ∀ double ∈ rule.doubles, ReadsBackAsWritten double) :
    rule.toValue.ReadsBack := by
  rcases List.forall_mem_append.mp doubles with ⟨multiplierBack, conditionsBack⟩
  have multiplier : ∀ factor ∈ rule.multiplier, (factorValue factor).ReadsBack := by
    intro factor mem
    have readBack := multiplierBack factor (Option.mem_toList.mpr mem)
    rw [factorValue, if_pos readBack.isFinite]
    exact .number readBack.readsBack
  refine .object ?_
  simp only [List.forall_mem_append]
  exact ⟨⟨.toList fun name _ => .text name, .toList multiplier⟩,
    List.forall_mem_singleton.mpr (Descriptor.conditions_readsBack writable conditionsBack)⟩

theorem DomainRules.toValue_readsBack {depth : Nat} {rules : DomainRules}
    (writable : rules.Writable depth)
    (doubles : ∀ double ∈ rules.doubles, ReadsBackAsWritten double) :
    rules.toValue.ReadsBack := by
  rcases List.forall_mem_append.mp doubles with ⟨transitionsBack, groupsBack⟩
  refine .object ?_
  simp only [List.forall_mem_cons]
  refine ⟨.object ?_, .array ?_, .object ?_, List.forall_mem_nil _⟩
  · exact List.forall_mem_map.mpr fun entry _ =>
      .array (List.forall_mem_map.mpr fun target _ => .text target)
  · exact List.forall_mem_map.mpr fun rule mem =>
      TransitionRule.toValue_readsBack (writable.transitions rule mem) fun double doubleMem =>
        transitionsBack double (List.mem_flatMap.mpr ⟨rule, mem, doubleMem⟩)
  · refine List.forall_mem_map.mpr fun group groupMem => .array ?_
    refine List.forall_mem_map.mpr fun rule mem => ?_
    refine GroupRule.toValue_readsBack (writable.groups group groupMem rule mem) ?_
    intro double doubleMem
    exact groupsBack double (List.mem_flatMap.mpr
      ⟨group.2, List.mem_map_of_mem groupMem, List.mem_flatMap.mpr ⟨rule, mem, doubleMem⟩⟩)

/-- In the record of a document all numbers are read back, if all doubles are. -/
theorem Document.toValue_readsBack {depth : Nat} {document : Document}
    (writable : document.Writable depth)
    (doubles : ∀ double ∈ document.doubles, ReadsBackAsWritten double) :
    document.toValue.ReadsBack := by
  refine .object (List.forall_mem_cons.mpr ⟨.object ?_, List.forall_mem_append.mpr
    ⟨.toList fun domain _ => .text domain, List.forall_mem_singleton.mpr (.object ?_)⟩⟩)
  · exact List.forall_mem_cons.mpr ⟨.text _, List.forall_mem_singleton.mpr (.text _)⟩
  · refine List.forall_mem_map.mpr fun entry mem => ?_
    refine DomainRules.toValue_readsBack (writable entry mem) fun double doubleMem => ?_
    exact doubles double (List.mem_flatMap.mpr ⟨entry.2, List.mem_map_of_mem mem, doubleMem⟩)

end WorkflowGuard
