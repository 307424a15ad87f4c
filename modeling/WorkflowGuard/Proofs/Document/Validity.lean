import WorkflowGuard.Document.Validation

/-!
# What validation promises

A document is accepted when none of its findings is a fault. This file reads off what the
absence of faults says about the transition rules of each domain: no two of them guard the same
edge. Registries rely on this, for they keep one guard per edge.

The fault of a repeated edge is found with a set that grows from rule to rule. At each rule the
set holds the edges of the rules before it and no others. So what is found at a rule can be told
from its position alone, and the rest of the argument goes by positions: of two rules of one
edge, the later makes a fault.
-/

namespace WorkflowGuard

namespace Finding

/-- Findings are accepted just when none of them is a fault. -/
theorem value_conclude_eq_ok_iff {findings : List Finding} :
    (conclude findings).value = .ok () ↔ ∀ error, fault error ∉ findings := by
  induction findings with
  | nil => simp [conclude]
  | cons finding rest ih =>
      cases finding with
      | fault error =>
          constructor
          · intro accepted
            cases accepted
          · intro noFault
            exact absurd List.mem_cons_self (noFault error)
      | warning event =>
          simp only [conclude, ih, List.mem_cons, reduceCtorEq, false_or]

end Finding

namespace DomainRules

/-- No two transition rules guard the same edge. -/
def EdgesDistinct (rules : DomainRules) : Prop :=
  rules.transitions.Pairwise fun earlier later =>
    ¬(earlier.source = later.source ∧ earlier.target = later.target)

section Seen

variable {domain : String} {rules : DomainRules}

/-- The edges that are guarded by the rules before a position. -/
def edgesBefore (rules : DomainRules) (position : Nat) : List (String × String) :=
  (rules.transitions.take position).map TransitionRule.edge

theorem mem_edgesBefore_iff {position : Nat} {edge : String × String} :
    edge ∈ rules.edgesBefore position ↔
      ∃ earlier < position, ∃ rule, rules.transitions[earlier]? = some rule ∧ rule.edge = edge := by
  rw [edgesBefore, List.mem_map]
  constructor
  · rintro ⟨rule, member, same⟩
    rcases List.mem_take_iff_getElem.mp member with ⟨earlier, inRange, rfl⟩
    exact ⟨earlier, by omega, _, List.getElem?_eq_getElem (by omega), same⟩
  · rintro ⟨earlier, before, rule, atEarlier, same⟩
    rcases List.getElem?_eq_some_iff.mp atEarlier with ⟨inRange, rfl⟩
    exact ⟨_, List.mem_take_iff_getElem.mpr ⟨earlier, by omega, rfl⟩, same⟩

/-- A set that has grown up to a position holds the edges of the rules before it. -/
def Saw (rules : DomainRules) (seen : List (String × String)) (position : Nat) : Prop :=
  ∀ edge, edge ∈ seen ↔ edge ∈ rules.edgesBefore position

theorem saw_nil : rules.Saw [] 0 := by
  intro edge
  rw [edgesBefore]
  rfl

/-- The set has grown up to the next position when the edge of the rule is put in. -/
theorem Saw.insert {seen : List (String × String)} {position : Nat} {rule : TransitionRule}
    (saw : rules.Saw seen position) (atPosition : rules.transitions[position]? = some rule) :
    rules.Saw (seen.insert rule.edge) (position + 1) := by
  intro edge
  rw [List.mem_insert_iff, saw edge, edgesBefore, edgesBefore, List.take_add_one, atPosition]
  simp only [Option.toList_some, List.map_append, List.map_singleton, List.mem_append,
    List.mem_singleton]
  exact or_comm

/-- Only the members of the set count. -/
theorem Saw.transitionFindings_eq {seen : List (String × String)} {position : Nat}
    (saw : rules.Saw seen position) (rule : TransitionRule) :
    rules.transitionFindings domain seen position rule =
      rules.transitionFindings domain (rules.edgesBefore position) position rule := by
  have same : seen.contains rule.edge = (rules.edgesBefore position).contains rule.edge := by
    rw [Bool.eq_iff_iff, List.contains_iff_mem, List.contains_iff_mem]
    exact saw rule.edge
  rw [transitionFindings, transitionFindings, same]

/-- The findings for the transition rule at a position. -/
def transitionFindingsAt (domain : String) (rules : DomainRules) (position : Nat)
    (rule : TransitionRule) : List Finding :=
  rules.transitionFindings domain (rules.edgesBefore position) position rule

/-- From a position on, the findings are those at each later position. -/
theorem Saw.transitionFindingsFrom_eq {later : List TransitionRule} {position : Nat}
    {seen : List (String × String)} (saw : rules.Saw seen position)
    (rest : rules.transitions.drop position = later) :
    rules.transitionFindingsFrom domain position seen later =
      ((later.zipIdx position).map fun entry =>
        rules.transitionFindingsAt domain entry.2 entry.1).flatten := by
  induction later generalizing position seen with
  | nil => rfl
  | cons rule others ih =>
      have atPosition : rules.transitions[position]? = some rule := by
        rw [← List.head?_drop, rest, List.head?_cons]
      have restOthers : rules.transitions.drop (position + 1) = others := by
        rw [← List.tail_drop, rest, List.tail_cons]
      -- What is handed on has grown by the edge of the rule that was just looked at.
      rw [transitionFindingsFrom, saw.transitionFindings_eq, ih (saw.insert atPosition) restOthers]
      rfl

/-- From the first rule on, with nothing seen, the findings are those at each position. -/
theorem transitionFindingsFrom_zero (domain : String) (rules : DomainRules) :
    rules.transitionFindingsFrom domain 0 [] rules.transitions =
      (rules.transitions.mapIdx (rules.transitionFindingsAt domain)).flatten := by
  rw [saw_nil.transitionFindingsFrom_eq List.drop_zero, List.mapIdx_eq_zipIdx_map]

end Seen

theorem transitionFindingsAt_mem_findings {domain : String} {rules : DomainRules} {index : Nat}
    (inRange : index < rules.transitions.length) {finding : Finding}
    (found : finding ∈ rules.transitionFindingsAt domain index rules.transitions[index]) :
    finding ∈ rules.findings domain := by
  have inTransitions : finding ∈ rules.transitionFindingsFrom domain 0 [] rules.transitions := by
    rw [transitionFindingsFrom_zero, List.mem_flatten]
    refine ⟨_, ?_, found⟩
    rw [List.mem_mapIdx]
    exact ⟨index, inRange, rfl⟩
  simp only [findings, List.mem_append]
  exact Or.inl (Or.inr inTransitions)

/-- A domain without faults has no two rules for one edge. -/
theorem edgesDistinct_of_noFault {domain : String} {rules : DomainRules}
    (noFault : ∀ error, Finding.fault error ∉ rules.findings domain) : rules.EdgesDistinct := by
  rw [EdgesDistinct]
  rw [List.pairwise_iff_getElem]
  intro earlier later earlierInRange laterInRange before sameEdge
  apply noFault (.duplicateTransition domain rules.transitions[later].source
    rules.transitions[later].target)
  apply transitionFindingsAt_mem_findings laterInRange
  have repeated : rules.transitions[later].edge ∈ rules.edgesBefore later := by
    rw [mem_edgesBefore_iff]
    refine ⟨earlier, before, _, List.getElem?_eq_getElem earlierInRange, ?_⟩
    rw [TransitionRule.edge, TransitionRule.edge, sameEdge.1, sameEdge.2]
  simp [transitionFindingsAt, transitionFindings, repeated]

theorem EdgesDistinct.rule_unique {rules : DomainRules} (distinct : rules.EdgesDistinct)
    {left right : TransitionRule} (leftMem : left ∈ rules.transitions)
    (rightMem : right ∈ rules.transitions) (sameSource : left.source = right.source)
    (sameTarget : left.target = right.target) : left = right := by
  rw [EdgesDistinct] at distinct
  rw [List.pairwise_iff_getElem] at distinct
  rcases List.mem_iff_getElem.mp leftMem with ⟨leftIndex, leftInRange, rfl⟩
  rcases List.mem_iff_getElem.mp rightMem with ⟨rightIndex, rightInRange, rfl⟩
  rcases Nat.lt_trichotomy leftIndex rightIndex with before | same | after
  · exact absurd ⟨sameSource, sameTarget⟩ (distinct _ _ leftInRange rightInRange before)
  · subst same
    rfl
  · exact absurd ⟨sameSource.symm, sameTarget.symm⟩
      (distinct _ _ rightInRange leftInRange after)

end DomainRules

namespace Document

theorem findings_noFault_of_validate {document : Document}
    (valid : document.validate.value = .ok ()) {domain : String} {rules : DomainRules}
    (member : (domain, rules) ∈ document.domains.entries) :
    ∀ error, Finding.fault error ∉ rules.findings domain := by
  intro error found
  have noFault := Finding.value_conclude_eq_ok_iff.mp valid
  apply noFault error
  simp only [findings, List.mem_append, List.mem_flatMap]
  exact Or.inr ⟨(domain, rules), member, found⟩

/-- In an accepted document no edge has two guards. -/
theorem edgesDistinct_of_validate {document : Document}
    (valid : document.validate.value = .ok ()) {domain : String} {rules : DomainRules}
    (found : document.domains.find? domain = some rules) : rules.EdgesDistinct := by
  apply DomainRules.edgesDistinct_of_noFault
  exact findings_noFault_of_validate valid (Dict.mem_entries_of_find? found)

/-- Bytes are accepted when they spell a document that validation accepts. -/
theorem value_load_eq_ok_iff {bytes : Bytes} {document : Document} :
    (load bytes).value = .ok document ↔
      parse? bytes = some document ∧ document.validate.value = .ok () := by
  rw [load]
  cases spelled : parse? bytes with
  | none => simp
  | some parsed =>
      rw [Logged.value_map]
      cases outcome : parsed.validate.value with
      | error error =>
          simp only [Except.map, Option.some.injEq, reduceCtorEq, false_iff, not_and]
          rintro rfl
          simp [outcome]
      | ok checked =>
          simp only [Except.map, Option.some.injEq, Except.ok.injEq]
          constructor
          · rintro rfl
            exact ⟨rfl, outcome⟩
          · exact And.left

end Document

end WorkflowGuard
