import Mathlib.Data.Prod.Basic
import WorkflowGuard.Proofs.Document.Validity

/-!
# What can be wrong with a document

A document is well formed if its names are not blank, its edges have one rule each and its
multipliers are finite. This file lists what can be found in a document that is not, and what
only looks like a mistake, each at a place of its own. The list is a relation and says nothing
about the walk that looks for it.

The places have an order, the one in which a reader goes through the document. That no fault is
found anywhere means that the document is well formed.
-/

namespace WorkflowGuard

/-- Where validation looks in a document, and what for. -/
inductive DocumentPlace where
  /-- The name of the default domain. -/
  | defaultDomain
  /-- The rules of the default domain. -/
  | defaultRules
  | domain (domain : String)
  | state (domain source : String)
  | target (domain source : String) (position : Nat)
  | ruleSource (domain : String) (position : Nat)
  | ruleTarget (domain : String) (position : Nat)
  /-- The edge of a rule, beside the edges of the rules before it. -/
  | ruleEdge (domain : String) (position : Nat)
  /-- The edge of a rule, as a step of the workflow. -/
  | ruleStep (domain : String) (position : Nat)
  | group (domain group : String)
  | multiplier (domain group : String) (position : Nat)
  deriving DecidableEq

namespace DocumentPlace

/-- The default domain stands before the domains, which go by name. In a domain come its name,
the workflow, the rules and the groups. States and groups go by name, each before what it
lists, and a rule is looked at four times before the next. -/
def rank : DocumentPlace → Nat × String × Nat × String × Nat × Nat
  | defaultDomain => (0, "", 0, "", 0, 0)
  | defaultRules => (0, "", 1, "", 0, 0)
  | domain name => (1, name, 0, "", 0, 0)
  | state name source => (1, name, 1, source, 0, 0)
  | target name source position => (1, name, 1, source, position + 1, 0)
  | ruleSource name position => (1, name, 2, "", position, 0)
  | ruleTarget name position => (1, name, 2, "", position, 1)
  | ruleEdge name position => (1, name, 2, "", position, 2)
  | ruleStep name position => (1, name, 2, "", position, 3)
  | group name key => (1, name, 3, key, 0, 0)
  | multiplier name key position => (1, name, 3, key, position + 1, 0)

/-- The place is in a domain. -/
def InDomain (place : DocumentPlace) (domain : String) : Prop :=
  ∃ rest, place.rank = (1, domain, rest)

/-- The place is in a part of a domain: its name, the workflow, the rules or the groups, which
are counted from zero. -/
def InPart (place : DocumentPlace) (domain : String) (part : Nat) : Prop :=
  ∃ rest, place.rank = (1, domain, part, rest)

/-- The order in which the document is walked. -/
def Before (left right : DocumentPlace) : Prop :=
  Prod.Lex (· < ·) (Prod.Lex (· < ·) (Prod.Lex (· < ·) (Prod.Lex (· < ·)
    (Prod.Lex (· < ·) (· < ·))))) left.rank right.rank

theorem Before.irrefl (place : DocumentPlace) : ¬place.Before place :=
  Std.Irrefl.irrefl (r := Prod.Lex _ _) place.rank

theorem Before.asymm {left right : DocumentPlace} (before : left.Before right) :
    ¬right.Before left :=
  Std.Asymm.asymm (r := Prod.Lex _ _) left.rank right.rank before

theorem InDomain.before {left right : DocumentPlace} {first second : String}
    (inFirst : left.InDomain first) (inSecond : right.InDomain second) (less : first < second) :
    left.Before right := by
  rcases inFirst with ⟨leftRest, leftRank⟩
  rcases inSecond with ⟨rightRest, rightRank⟩
  rw [Before, leftRank, rightRank]
  exact .right _ (.left _ _ less)

theorem InPart.before {left right : DocumentPlace} {domain : String} {first second : Nat}
    (inFirst : left.InPart domain first) (inSecond : right.InPart domain second)
    (less : first < second) : left.Before right := by
  rcases inFirst with ⟨leftRest, leftRank⟩
  rcases inSecond with ⟨rightRest, rightRank⟩
  rw [Before, leftRank, rightRank]
  exact .right _ (.right _ (.left _ _ less))

/-- In a part of a domain, states and groups go by name. -/
theorem Before.of_name {left right : DocumentPlace} {domain first second : String} {part : Nat}
    {leftRest rightRest : Nat × Nat} (leftRank : left.rank = (1, domain, part, first, leftRest))
    (rightRank : right.rank = (1, domain, part, second, rightRest)) (less : first < second) :
    left.Before right := by
  rw [Before, leftRank, rightRank]
  exact .right _ (.right _ (.right _ (.left _ _ less)))

/-- In a part, what stands at an earlier position comes first, whatever is checked there. -/
theorem Before.of_position {left right : DocumentPlace} {domain name : String}
    {part first second leftCheck rightCheck : Nat}
    (leftRank : left.rank = (1, domain, part, name, first, leftCheck))
    (rightRank : right.rank = (1, domain, part, name, second, rightCheck))
    (less : first < second) : left.Before right := by
  rw [Before, leftRank, rightRank]
  exact .right _ (.right _ (.right _ (.right _ (.left _ _ less))))

/-- A rule is looked at several times. -/
theorem Before.of_check {left right : DocumentPlace} {domain name : String}
    {part position first second : Nat}
    (leftRank : left.rank = (1, domain, part, name, position, first))
    (rightRank : right.rank = (1, domain, part, name, position, second))
    (less : first < second) : left.Before right := by
  rw [Before, leftRank, rightRank]
  exact .right _ (.right _ (.right _ (.right _ (.right _ less))))

theorem InPart.inDomain {place : DocumentPlace} {domain : String} {part : Nat}
    (inPart : place.InPart domain part) : place.InDomain domain := by
  rcases inPart with ⟨rest, rank⟩
  exact ⟨_, rank⟩

end DocumentPlace

namespace DomainRules

/-- What can be found in the rules of a domain, and where. -/
inductive Finds (domain : String) (rules : DomainRules) : DocumentPlace → Finding → Prop where
  | blankDomain (blank : Text.Blank domain) :
      Finds domain rules (.domain domain) (.fault (.blankName "domains"))
  | blankState {source : String} {targets : List String}
      (listed : rules.workflow.find? source = some targets) (blank : Text.Blank source) :
      Finds domain rules (.state domain source)
        (.fault (.blankName s!"domains.{domain}.workflow"))
  | blankTarget {source : String} {targets : List String} {position : Nat} {target : String}
      (listed : rules.workflow.find? source = some targets)
      (atPosition : targets[position]? = some target) (blank : Text.Blank target) :
      Finds domain rules (.target domain source position)
        (.fault (.blankName s!"domains.{domain}.workflow.{source}"))
  | blankRuleSource {position : Nat} {rule : TransitionRule}
      (atPosition : rules.transitions[position]? = some rule) (blank : Text.Blank rule.source) :
      Finds domain rules (.ruleSource domain position)
        (.fault (.blankName s!"domains.{domain}.transitions[{position}].from"))
  | blankRuleTarget {position : Nat} {rule : TransitionRule}
      (atPosition : rules.transitions[position]? = some rule) (blank : Text.Blank rule.target) :
      Finds domain rules (.ruleTarget domain position)
        (.fault (.blankName s!"domains.{domain}.transitions[{position}].to"))
  | repeatedEdge {position earlier : Nat} {rule other : TransitionRule}
      (atPosition : rules.transitions[position]? = some rule) (before : earlier < position)
      (atEarlier : rules.transitions[earlier]? = some other)
      (sameEdge : other.source = rule.source ∧ other.target = rule.target) :
      Finds domain rules (.ruleEdge domain position)
        (.fault (.duplicateTransition domain rule.source rule.target))
  | edgeOutsideWorkflow {position : Nat} {rule : TransitionRule}
      (atPosition : rules.transitions[position]? = some rule)
      (outside : ∀ targets, rules.workflow.find? rule.source = some targets →
        rule.target ∉ targets) :
      Finds domain rules (.ruleStep domain position)
        (.warning (.edgeOutsideWorkflow domain rule.source rule.target))
  | blankGroup {group : String} {entries : List GroupRule}
      (listed : rules.groups.find? group = some entries) (blank : Text.Blank group) :
      Finds domain rules (.group domain group)
        (.fault (.blankName s!"domains.{domain}.rule_groups"))
  | infiniteMultiplier {group : String} {entries : List GroupRule} {position : Nat}
      {entry : GroupRule} {factor : Float}
      (listed : rules.groups.find? group = some entries)
      (atPosition : entries[position]? = some entry) (given : entry.multiplier = some factor)
      (infinite : factor.isFinite = false) :
      Finds domain rules (.multiplier domain group position)
        (.fault (.invalidMultiplier domain group position))

/-- The names of a domain's rules are not blank, their edges are distinct and their multipliers
finite. -/
structure WellFormed (rules : DomainRules) : Prop where
  states : ∀ source targets, rules.workflow.find? source = some targets →
    ¬Text.Blank source ∧ ∀ target ∈ targets, ¬Text.Blank target
  transitions : ∀ rule ∈ rules.transitions, ¬Text.Blank rule.source ∧ ¬Text.Blank rule.target
  edges : rules.EdgesDistinct
  groups : ∀ group entries, rules.groups.find? group = some entries →
    ¬Text.Blank group ∧ ∀ entry ∈ entries, ∀ factor, entry.multiplier = some factor →
      factor.isFinite = true

end DomainRules

namespace Document

/-- What can be found in a document, and where. -/
inductive Finds (document : Document) : DocumentPlace → Finding → Prop where
  | blankDefaultDomain {domain : String} (given : document.defaultDomain = some domain)
      (blank : Text.Blank domain) :
      Finds document .defaultDomain (.fault (.blankName "default_domain"))
  | defaultDomainWithoutRules {domain : String} (given : document.defaultDomain = some domain)
      (missing : document.domains.find? domain = none) :
      Finds document .defaultRules (.warning (.defaultDomainWithoutRules domain))
  | inDomain {domain : String} {rules : DomainRules} {place : DocumentPlace} {finding : Finding}
      (configured : document.domains.find? domain = some rules)
      (found : rules.Finds domain place finding) :
      Finds document place finding

/-- Names are not blank, no two rules guard one edge, and multipliers are finite. -/
structure WellFormed (document : Document) : Prop where
  defaultDomain : ∀ domain, document.defaultDomain = some domain → ¬Text.Blank domain
  domains : ∀ domain rules, document.domains.find? domain = some rules →
    ¬Text.Blank domain ∧ rules.WellFormed

end Document

namespace DomainRules

section

variable {domain : String} {rules : DomainRules} {finding : Finding}

theorem finds_domain_iff :
    rules.Finds domain (.domain domain) finding ↔
      Text.Blank domain ∧ finding = .fault (.blankName "domains") := by
  constructor
  · intro found
    cases found with
    | blankDomain blank => exact ⟨blank, rfl⟩
  · rintro ⟨blank, rfl⟩
    exact .blankDomain blank

theorem finds_state_iff {source : String} {targets : List String}
    (listed : rules.workflow.find? source = some targets) :
    rules.Finds domain (.state domain source) finding ↔
      Text.Blank source ∧ finding = .fault (.blankName s!"domains.{domain}.workflow") := by
  constructor
  · intro found
    cases found with
    | blankState _ blank => exact ⟨blank, rfl⟩
  · rintro ⟨blank, rfl⟩
    exact .blankState listed blank

theorem finds_target_iff {source target : String} {targets : List String} {position : Nat}
    (listed : rules.workflow.find? source = some targets)
    (atPosition : targets[position]? = some target) :
    rules.Finds domain (.target domain source position) finding ↔
      Text.Blank target ∧
        finding = .fault (.blankName s!"domains.{domain}.workflow.{source}") := by
  constructor
  · intro found
    cases found with
    | blankTarget listed' atPosition' blank =>
        cases listed.symm.trans listed'
        cases atPosition.symm.trans atPosition'
        exact ⟨blank, rfl⟩
  · rintro ⟨blank, rfl⟩
    exact .blankTarget listed atPosition blank

section

variable {position : Nat} {rule : TransitionRule}
  (atPosition : rules.transitions[position]? = some rule)

include atPosition

theorem finds_ruleSource_iff :
    rules.Finds domain (.ruleSource domain position) finding ↔
      Text.Blank rule.source ∧
        finding = .fault (.blankName s!"domains.{domain}.transitions[{position}].from") := by
  constructor
  · intro found
    cases found with
    | blankRuleSource atPosition' blank =>
        cases atPosition.symm.trans atPosition'
        exact ⟨blank, rfl⟩
  · rintro ⟨blank, rfl⟩
    exact .blankRuleSource atPosition blank

theorem finds_ruleTarget_iff :
    rules.Finds domain (.ruleTarget domain position) finding ↔
      Text.Blank rule.target ∧
        finding = .fault (.blankName s!"domains.{domain}.transitions[{position}].to") := by
  constructor
  · intro found
    cases found with
    | blankRuleTarget atPosition' blank =>
        cases atPosition.symm.trans atPosition'
        exact ⟨blank, rfl⟩
  · rintro ⟨blank, rfl⟩
    exact .blankRuleTarget atPosition blank

/-- At a rule a repeated edge is found just when the edge was seen before. -/
theorem finds_ruleEdge_iff :
    rules.Finds domain (.ruleEdge domain position) finding ↔
      (rules.edgesBefore position).contains rule.edge = true ∧
        finding = .fault (.duplicateTransition domain rule.source rule.target) := by
  rw [List.contains_iff_mem, mem_edgesBefore_iff]
  constructor
  · intro found
    cases found with
    | repeatedEdge atPosition' before atEarlier sameEdge =>
        cases atPosition.symm.trans atPosition'
        exact ⟨⟨_, before, _, atEarlier, Prod.ext sameEdge.1 sameEdge.2⟩, rfl⟩
  · rintro ⟨⟨earlier, before, other, atEarlier, sameEdge⟩, rfl⟩
    exact .repeatedEdge atPosition before atEarlier (Prod.mk.inj sameEdge)

/-- A rule for an edge outside the workflow is warned of, not refused. -/
theorem finds_ruleStep_iff :
    rules.Finds domain (.ruleStep domain position) finding ↔
      ¬rules.hasEdge rule.source rule.target = true ∧
        finding = .warning (.edgeOutsideWorkflow domain rule.source rule.target) := by
  have outside_iff : (¬rules.hasEdge rule.source rule.target = true) ↔
      ∀ targets, rules.workflow.find? rule.source = some targets → rule.target ∉ targets := by
    rw [hasEdge]
    cases rules.workflow.find? rule.source <;> simp
  rw [outside_iff]
  constructor
  · intro found
    cases found with
    | edgeOutsideWorkflow atPosition' outside =>
        cases atPosition.symm.trans atPosition'
        exact ⟨outside, rfl⟩
  · rintro ⟨outside, rfl⟩
    exact .edgeOutsideWorkflow atPosition outside

end

theorem finds_group_iff {group : String} {entries : List GroupRule}
    (listed : rules.groups.find? group = some entries) :
    rules.Finds domain (.group domain group) finding ↔
      Text.Blank group ∧ finding = .fault (.blankName s!"domains.{domain}.rule_groups") := by
  constructor
  · intro found
    cases found with
    | blankGroup _ blank => exact ⟨blank, rfl⟩
  · rintro ⟨blank, rfl⟩
    exact .blankGroup listed blank

theorem finds_multiplier_iff {group : String} {entries : List GroupRule} {position : Nat}
    {entry : GroupRule} (listed : rules.groups.find? group = some entries)
    (atPosition : entries[position]? = some entry) :
    rules.Finds domain (.multiplier domain group position) finding ↔
      entry.multiplier.any (fun factor => !factor.isFinite) = true ∧
        finding = .fault (.invalidMultiplier domain group position) := by
  simp only [Option.any_eq_true, Bool.not_eq_true']
  constructor
  · intro found
    cases found with
    | infiniteMultiplier listed' atPosition' given infinite =>
        cases listed.symm.trans listed'
        cases atPosition.symm.trans atPosition'
        exact ⟨⟨_, given, infinite⟩, rfl⟩
  · rintro ⟨⟨factor, given, infinite⟩, rfl⟩
    exact .infiniteMultiplier listed atPosition given infinite

end

/-- All that is found in a domain lies in one of its four parts. -/
theorem Finds.inPart {domain : String} {rules : DomainRules} {place : DocumentPlace}
    {finding : Finding} (found : rules.Finds domain place finding) :
    ((place.InPart domain 0 ∨ place.InPart domain 1) ∨ place.InPart domain 2) ∨
      place.InPart domain 3 := by
  cases found <;> simp [DocumentPlace.InPart, DocumentPlace.rank]

theorem Finds.inDomain {domain : String} {rules : DomainRules} {place : DocumentPlace}
    {finding : Finding} (found : rules.Finds domain place finding) : place.InDomain domain := by
  rcases found.inPart with ((inPart | inPart) | inPart) | inPart
  all_goals exact inPart.inDomain

/-- A domain is well formed, and has a name, just when no fault can be found in it. -/
theorem wellFormed_iff {domain : String} {rules : DomainRules} :
    ¬Text.Blank domain ∧ rules.WellFormed ↔
      ∀ place error, ¬rules.Finds domain place (.fault error) := by
  constructor
  · rintro ⟨named, wellFormed⟩ place error found
    cases found with
    | blankDomain blank => exact named blank
    | blankState listed blank => exact (wellFormed.states _ _ listed).1 blank
    | blankTarget listed atPosition blank =>
        exact (wellFormed.states _ _ listed).2 _ (List.mem_of_getElem? atPosition) blank
    | blankRuleSource atPosition blank =>
        exact (wellFormed.transitions _ (List.mem_of_getElem? atPosition)).1 blank
    | blankRuleTarget atPosition blank =>
        exact (wellFormed.transitions _ (List.mem_of_getElem? atPosition)).2 blank
    | repeatedEdge atPosition before atEarlier sameEdge =>
        rcases List.getElem?_eq_some_iff.mp atPosition with ⟨inRange, rfl⟩
        rcases List.getElem?_eq_some_iff.mp atEarlier with ⟨earlierInRange, rfl⟩
        exact List.pairwise_iff_getElem.mp wellFormed.edges _ _ earlierInRange inRange before
          sameEdge
    | blankGroup listed blank => exact (wellFormed.groups _ _ listed).1 blank
    | infiniteMultiplier listed atPosition given infinite =>
        have finite := (wellFormed.groups _ _ listed).2 _ (List.mem_of_getElem? atPosition) _ given
        rw [finite] at infinite
        cases infinite
  · intro faultless
    refine ⟨fun blank => faultless _ _ (.blankDomain blank), ?_⟩
    constructor
    case states =>
      intro source targets listed
      refine ⟨fun blank => faultless _ _ (.blankState listed blank), ?_⟩
      intro target member blank
      rcases List.mem_iff_getElem?.mp member with ⟨position, atPosition⟩
      exact faultless _ _ (.blankTarget listed atPosition blank)
    case transitions =>
      intro rule member
      rcases List.mem_iff_getElem?.mp member with ⟨position, atPosition⟩
      exact ⟨fun blank => faultless _ _ (.blankRuleSource atPosition blank),
        fun blank => faultless _ _ (.blankRuleTarget atPosition blank)⟩
    case edges =>
      rw [EdgesDistinct, List.pairwise_iff_getElem]
      intro earlier later earlierInRange inRange before sameEdge
      exact faultless _ _ (.repeatedEdge (List.getElem?_eq_getElem inRange) before
        (List.getElem?_eq_getElem earlierInRange) sameEdge)
    case groups =>
      intro group entries listed
      refine ⟨fun blank => faultless _ _ (.blankGroup listed blank), ?_⟩
      intro entry member factor given
      rcases List.mem_iff_getElem?.mp member with ⟨position, atPosition⟩
      rw [← Bool.not_eq_false]
      intro infinite
      exact faultless _ _ (.infiniteMultiplier listed atPosition given infinite)

end DomainRules

namespace Document

variable {document : Document}

theorem Finds.level {place : DocumentPlace} {event : Event}
    (found : document.Finds place (.warning event)) : event.level = .warn := by
  cases found with
  | defaultDomainWithoutRules => rfl
  | inDomain _ found =>
      cases found
      rfl

/-- What is found at a place of a domain depends on the rules of that domain alone. -/
theorem Finds.iff_of_inDomain {domain : String} {rules : DomainRules} {place : DocumentPlace}
    {finding : Finding} (configured : document.domains.find? domain = some rules)
    (inDomain : place.InDomain domain) :
    document.Finds place finding ↔ rules.Finds domain place finding := by
  rcases inDomain with ⟨rest, rank⟩
  constructor
  · intro found
    cases found with
    | blankDefaultDomain => simp [DocumentPlace.rank] at rank
    | defaultDomainWithoutRules => simp [DocumentPlace.rank] at rank
    | inDomain configured' found =>
        rcases found.inDomain with ⟨rest', rank'⟩
        cases rank.symm.trans rank'
        cases configured.symm.trans configured'
        exact found
  · exact .inDomain configured

/-- A document is well formed just when no fault can be found in it. -/
theorem wellFormed_iff :
    document.WellFormed ↔ ∀ place error, ¬document.Finds place (.fault error) := by
  constructor
  · intro wellFormed place error found
    cases found with
    | blankDefaultDomain given blank => exact wellFormed.defaultDomain _ given blank
    | inDomain configured found =>
        exact DomainRules.wellFormed_iff.mp (wellFormed.domains _ _ configured) _ _ found
  · intro faultless
    constructor
    case defaultDomain =>
      intro domain given blank
      exact faultless _ _ (.blankDefaultDomain given blank)
    case domains =>
      intro domain rules configured
      apply DomainRules.wellFormed_iff.mpr
      intro place error found
      exact faultless _ _ (.inDomain configured found)

end Document

end WorkflowGuard
