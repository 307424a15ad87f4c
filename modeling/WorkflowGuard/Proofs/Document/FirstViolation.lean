import Mathlib.Data.List.Forall2
import WorkflowGuard.Proofs.Document.Violations

/-!
# What validation reports

Validation has to answer with the first violation in a document, and to warn of what it passed
on the way. It collects findings in a list and cuts the list at the first fault. So there are
two things to show. The list enumerates what can be found, in the order of the places: this
goes part by part, for enumerations of regions that follow each other can be appended. And an
enumeration that is cut at its first fault gives the first violation and the warnings before it.
-/

namespace WorkflowGuard

open DocumentPlace (Before)

/-- The findings are what is found at the places of a region, in the order of the places. -/
def Enumerates (Found : DocumentPlace → Finding → Prop) (Region : DocumentPlace → Prop)
    (findings : List Finding) : Prop :=
  ∃ placed : List (DocumentPlace × Finding),
    placed.map Prod.snd = findings ∧
      (placed.Pairwise fun left right => left.1.Before right.1) ∧
      ∀ place finding, (place, finding) ∈ placed ↔ Region place ∧ Found place finding

theorem flatten_mapIdx_const {α β : Type} (items : List α) (f : α → List β) :
    (items.mapIdx fun _ => f).flatten = items.flatMap f := by
  rw [List.flatMap_def]
  congr 1
  apply List.ext_getElem <;> simp

namespace Enumerates

variable {Found Others : DocumentPlace → Finding → Prop} {Region Rest : DocumentPlace → Prop}
  {findings others : List Finding}

theorem congr (enumerates : Enumerates Found Region findings)
    (same : ∀ place finding, Region place ∧ Found place finding ↔
      Rest place ∧ Others place finding) :
    Enumerates Others Rest findings := by
  rcases enumerates with ⟨placed, listed, ordered, isPlaced⟩
  refine ⟨placed, listed, ordered, ?_⟩
  intro place finding
  rw [isPlaced, same]

/-- One check looks at one place and finds at most one thing there. -/
theorem single {place : DocumentPlace} {condition : Prop} [Decidable condition]
    {finding : Finding} (found : ∀ other, Found place other ↔ condition ∧ other = finding) :
    Enumerates Found (· = place) (if condition then [finding] else []) := by
  by_cases holds : condition
  · refine ⟨[(place, finding)], by simp [holds], by simp, ?_⟩
    intro other otherFinding
    rw [List.mem_singleton, Prod.mk.injEq]
    constructor
    · rintro ⟨rfl, rfl⟩
      exact ⟨rfl, (found _).mpr ⟨holds, rfl⟩⟩
    · rintro ⟨rfl, isFound⟩
      exact ⟨rfl, ((found _).mp isFound).2⟩
  · refine ⟨[], by simp [holds], by simp, ?_⟩
    intro other otherFinding
    simp only [List.not_mem_nil, false_iff]
    rintro ⟨rfl, isFound⟩
    exact holds ((found _).mp isFound).1

/-- Regions that follow each other are enumerated one after the other. -/
theorem append (first : Enumerates Found Region findings)
    (second : Enumerates Found Rest others)
    (before : ∀ left right, Region left → Rest right → left.Before right) :
    Enumerates Found (fun place => Region place ∨ Rest place) (findings ++ others) := by
  rcases first with ⟨front, rfl, frontOrdered, inFront⟩
  rcases second with ⟨back, rfl, backOrdered, inBack⟩
  refine ⟨front ++ back, by simp, ?_, ?_⟩
  · rw [List.pairwise_append]
    refine ⟨frontOrdered, backOrdered, ?_⟩
    rintro ⟨left, finding⟩ leftMem ⟨right, other⟩ rightMem
    exact before left right ((inFront _ _).mp leftMem).1 ((inBack _ _).mp rightMem).1
  · intro place finding
    rw [List.mem_append, inFront, inBack, or_and_right]

/-- Regions that belong to the items of an ordered list are enumerated item by item. -/
theorem flatMap {α : Type} {order : α → α → Prop} {items : List α}
    {Region : α → DocumentPlace → Prop} {findings : α → List Finding}
    (ordered : items.Pairwise order)
    (each : ∀ item ∈ items, Enumerates Found (Region item) (findings item))
    (before : ∀ first second, order first second → ∀ left right,
      Region first left → Region second right → left.Before right) :
    Enumerates Found (fun place => ∃ item ∈ items, Region item place)
      (items.flatMap findings) := by
  induction items with
  | nil => exact ⟨[], by simp, by simp, by simp⟩
  | cons head rest ih =>
      rcases List.pairwise_cons.mp ordered with ⟨headFirst, restOrdered⟩
      have ofRest := ih restOrdered fun item member => each item (List.mem_cons_of_mem _ member)
      rw [List.flatMap_cons]
      apply ((each head List.mem_cons_self).append ofRest _).congr
      · intro place finding
        simp only [List.mem_cons, exists_eq_or_imp]
      · rintro left right inHead ⟨item, member, inItem⟩
        exact before head item (headFirst item member) left right inHead inItem

/-- A list is walked by position. -/
theorem positions {α : Type} {items : List α} {Region : Nat → DocumentPlace → Prop}
    {findings : Nat → α → List Finding}
    (each : ∀ position item, items[position]? = some item →
      Enumerates Found (Region position) (findings position item))
    (before : ∀ first second, first < second → ∀ left right,
      Region first left → Region second right → left.Before right) :
    Enumerates Found (fun place => ∃ position < items.length, Region position place)
      (items.mapIdx findings).flatten := by
  have ordered : items.zipIdx.Pairwise fun left right => left.2 < right.2 := by
    rw [← List.pairwise_map (f := Prod.snd) (R := (· < ·)), List.zipIdx_map_snd]
    exact List.pairwise_lt_range'
  have walked : Enumerates Found (fun place => ∃ entry ∈ items.zipIdx, Region entry.2 place)
      (items.zipIdx.flatMap fun entry => findings entry.2 entry.1) := by
    apply flatMap ordered
    · intro entry member
      exact each entry.2 entry.1 (List.mem_zipIdx_iff_getElem?.mp member)
    · intro first second less
      exact before first.2 second.2 less
  rw [List.mapIdx_eq_zipIdx_map]
  apply walked.congr
  intro place finding
  apply and_congr_left'
  constructor
  · rintro ⟨⟨item, position⟩, member, inRegion⟩
    have atPosition := List.mem_zipIdx_iff_getElem?.mp member
    exact ⟨position, (List.getElem?_eq_some_iff.mp atPosition).1, inRegion⟩
  · rintro ⟨position, inRange, inRegion⟩
    refine ⟨(items[position], position), ?_, inRegion⟩
    exact List.mem_zipIdx_iff_getElem?.mpr (List.getElem?_eq_getElem inRange)

theorem ofName {place : DocumentPlace} {path name : String}
    (found : ∀ finding, Found place finding ↔
      Text.Blank name ∧ finding = .fault (.blankName path)) :
    Enumerates Found (· = place) (Finding.ofName path name) := by
  apply single
  simpa only [Text.isBlank_iff] using found

/-- A dictionary of lists is walked by name, each name before the items of its list. -/
theorem dict {α : Type} (dict : Dict (List α)) {domain : String} {part : Nat}
    (atName : String → DocumentPlace) (atItem : String → Nat → DocumentPlace)
    {ofName : String → List Finding} {ofItem : String → Nat → α → List Finding}
    (nameRank : ∀ name, (atName name).rank = (1, domain, part, name, 0, 0))
    (itemRank : ∀ name position,
      (atItem name position).rank = (1, domain, part, name, position + 1, 0))
    (eachName : ∀ name items, dict.find? name = some items →
      Enumerates Found (· = atName name) (ofName name))
    (eachItem : ∀ name items, dict.find? name = some items → ∀ position item,
      items[position]? = some item →
        Enumerates Found (· = atItem name position) (ofItem name position item)) :
    Enumerates Found
      (fun place => ∃ entry ∈ dict.entries,
        place = atName entry.1 ∨ ∃ position < entry.2.length, place = atItem entry.1 position)
      (dict.entries.flatMap fun entry =>
        ofName entry.1 ++ (entry.2.mapIdx (ofItem entry.1)).flatten) := by
  apply flatMap dict.sorted
  · rintro ⟨name, items⟩ member
    have listed := Dict.find?_eq_some_iff.mpr member
    apply (eachName name items listed).append
    · apply positions (eachItem name items listed)
      rintro first second less _ _ rfl rfl
      exact Before.of_position (itemRank _ _) (itemRank _ _) (Nat.succ_lt_succ less)
    · rintro _ _ rfl ⟨position, _, rfl⟩
      exact Before.of_position (nameRank _) (itemRank _ _) position.succ_pos
  · rintro first second less _ _ (rfl | ⟨_, _, rfl⟩) (rfl | ⟨_, _, rfl⟩)
    · exact Before.of_name (nameRank _) (nameRank _) less
    · exact Before.of_name (nameRank _) (itemRank _ _) less
    · exact Before.of_name (itemRank _ _) (nameRank _) less
    · exact Before.of_name (itemRank _ _) (itemRank _ _) less

end Enumerates

namespace DomainRules

section

variable (domain : String) (rules : DomainRules)

theorem enumerates_name :
    Enumerates (rules.Finds domain) (·.InPart domain 0) (Finding.ofName "domains" domain) := by
  apply (Enumerates.ofName fun _ => finds_domain_iff).congr
  intro place finding
  constructor
  · rintro ⟨rfl, found⟩
    exact ⟨⟨_, rfl⟩, found⟩
  · rintro ⟨⟨_, part⟩, found⟩
    cases found with
    | blankDomain blank => exact ⟨rfl, .blankDomain blank⟩
    | _ => cases part

/-- The workflow is walked by state, and each state by the positions of its targets. -/
theorem enumerates_workflowFindings :
    Enumerates (rules.Finds domain) (·.InPart domain 1) (rules.workflowFindings domain) := by
  have walked : Enumerates (rules.Finds domain)
      (fun place => ∃ entry ∈ rules.workflow.entries,
        place = .state domain entry.1 ∨
          ∃ position < entry.2.length, place = .target domain entry.1 position)
      (rules.workflowFindings domain) := by
    have eachState : ∀ source targets, rules.workflow.find? source = some targets →
        Enumerates (rules.Finds domain) (· = .state domain source)
          (Finding.ofName s!"domains.{domain}.workflow" source) := by
      intro source targets listed
      exact Enumerates.ofName fun _ => finds_state_iff listed
    have eachTarget : ∀ source targets, rules.workflow.find? source = some targets →
        ∀ position target, targets[position]? = some target →
          Enumerates (rules.Finds domain) (· = .target domain source position)
            (Finding.ofName s!"domains.{domain}.workflow.{source}" target) := by
      intro source targets listed position target atPosition
      exact Enumerates.ofName fun _ => finds_target_iff listed atPosition
    have byName := Enumerates.dict rules.workflow (.state domain) (.target domain)
      (fun _ => rfl) (fun _ _ => rfl) eachState eachTarget
    simp only [flatten_mapIdx_const] at byName
    exact byName
  apply walked.congr
  intro place finding
  apply and_congr_left
  intro found
  constructor
  · rintro ⟨_, _, rfl | ⟨_, _, rfl⟩⟩
    all_goals exact ⟨_, rfl⟩
  · rintro ⟨_, part⟩
    cases found with
    | blankState listed => exact ⟨_, Dict.find?_eq_some_iff.mp listed, .inl rfl⟩
    | blankTarget listed atPosition =>
        have inRange := (List.getElem?_eq_some_iff.mp atPosition).1
        exact ⟨_, Dict.find?_eq_some_iff.mp listed, .inr ⟨_, inRange, rfl⟩⟩
    | _ => cases part

/-- The transition rules are walked by position, with four checks at each of them. -/
theorem enumerates_transitionFindings :
    Enumerates (rules.Finds domain) (·.InPart domain 2)
      (rules.transitionFindingsFrom domain 0 [] rules.transitions) := by
  rw [transitionFindingsFrom_zero]
  have walked : Enumerates (rules.Finds domain)
      (fun place => ∃ position < rules.transitions.length,
        ((place = .ruleSource domain position ∨ place = .ruleTarget domain position) ∨
          place = .ruleEdge domain position) ∨ place = .ruleStep domain position)
      (rules.transitions.mapIdx (rules.transitionFindingsAt domain)).flatten := by
    apply Enumerates.positions
    · intro position rule atPosition
      apply Enumerates.append
      · apply Enumerates.append
        · apply Enumerates.append
          · exact Enumerates.ofName fun _ => finds_ruleSource_iff atPosition
          · exact Enumerates.ofName fun _ => finds_ruleTarget_iff atPosition
          · rintro _ _ rfl rfl
            exact Before.of_check rfl rfl (by decide)
        · exact Enumerates.single fun _ => finds_ruleEdge_iff atPosition
        · rintro _ _ (rfl | rfl) rfl
          all_goals exact Before.of_check rfl rfl (by decide)
      · rw [← ite_not]
        exact Enumerates.single fun _ => finds_ruleStep_iff atPosition
      · rintro _ _ ((rfl | rfl) | rfl) rfl
        all_goals exact Before.of_check rfl rfl (by decide)
    · rintro first second less _ _ (((rfl | rfl) | rfl) | rfl) (((rfl | rfl) | rfl) | rfl)
      all_goals exact Before.of_position rfl rfl less
  apply walked.congr
  intro place finding
  apply and_congr_left
  intro found
  constructor
  · rintro ⟨_, _, ((rfl | rfl) | rfl) | rfl⟩
    all_goals exact ⟨_, rfl⟩
  · rintro ⟨_, part⟩
    cases found with
    | blankRuleSource atPosition | blankRuleTarget atPosition | repeatedEdge atPosition
    | edgeOutsideWorkflow atPosition =>
        have inRange := (List.getElem?_eq_some_iff.mp atPosition).1
        exact ⟨_, inRange, by simp⟩
    | _ => cases part

theorem enumerates_groupFindings :
    Enumerates (rules.Finds domain) (·.InPart domain 3)
      (rules.groups.entries.flatMap fun (group, entries) =>
        groupFindings domain group entries) := by
  have walked : Enumerates (rules.Finds domain)
      (fun place => ∃ entry ∈ rules.groups.entries,
        place = .group domain entry.1 ∨
          ∃ position < entry.2.length, place = .multiplier domain entry.1 position)
      (rules.groups.entries.flatMap fun (group, entries) =>
        groupFindings domain group entries) := by
    have eachGroup : ∀ group entries, rules.groups.find? group = some entries →
        Enumerates (rules.Finds domain) (· = .group domain group)
          (Finding.ofName s!"domains.{domain}.rule_groups" group) := by
      intro group entries listed
      exact Enumerates.ofName fun _ => finds_group_iff listed
    have eachEntry : ∀ group entries, rules.groups.find? group = some entries →
        ∀ position entry, entries[position]? = some entry →
          Enumerates (rules.Finds domain) (· = .multiplier domain group position)
            (if (entry : GroupRule).multiplier.any fun factor => !factor.isFinite
              then [.fault (.invalidMultiplier domain group position)] else []) := by
      intro group entries listed position entry atPosition
      exact Enumerates.single fun _ => finds_multiplier_iff listed atPosition
    exact Enumerates.dict rules.groups (.group domain) (.multiplier domain)
      (fun _ => rfl) (fun _ _ => rfl) eachGroup eachEntry
  apply walked.congr
  intro place finding
  apply and_congr_left
  intro found
  constructor
  · rintro ⟨_, _, rfl | ⟨_, _, rfl⟩⟩
    all_goals exact ⟨_, rfl⟩
  · rintro ⟨_, part⟩
    cases found with
    | blankGroup listed => exact ⟨_, Dict.find?_eq_some_iff.mp listed, .inl rfl⟩
    | infiniteMultiplier listed atPosition =>
        have inRange := (List.getElem?_eq_some_iff.mp atPosition).1
        exact ⟨_, Dict.find?_eq_some_iff.mp listed, .inr ⟨_, inRange, rfl⟩⟩
    | _ => cases part

/-- The four parts of a domain follow each other. -/
theorem enumerates_findings :
    Enumerates (rules.Finds domain) (·.InDomain domain) (rules.findings domain) := by
  have walked := (((enumerates_name domain rules).append
    (enumerates_workflowFindings domain rules) ?_).append
    (enumerates_transitionFindings domain rules) ?_).append
    (enumerates_groupFindings domain rules) ?_
  · apply walked.congr
    intro place finding
    constructor
    · rintro ⟨_, found⟩
      exact ⟨found.inDomain, found⟩
    · rintro ⟨_, found⟩
      exact ⟨found.inPart, found⟩
  · intro left right leftPart rightPart
    exact leftPart.before rightPart (by omega)
  · rintro left right (leftPart | leftPart) rightPart
    all_goals exact leftPart.before rightPart (by omega)
  · rintro left right ((leftPart | leftPart) | leftPart) rightPart
    all_goals exact leftPart.before rightPart (by omega)

end

end DomainRules

namespace Document

variable {document : Document}

theorem enumerates_defaultDomainFindings :
    Enumerates document.Finds (fun place => place = .defaultDomain ∨ place = .defaultRules)
      document.defaultDomainFindings := by
  rw [defaultDomainFindings]
  cases given : document.defaultDomain with
  | none =>
      refine ⟨[], rfl, .nil, ?_⟩
      intro place finding
      simp only [List.not_mem_nil, false_iff]
      rintro ⟨rfl | rfl, found⟩
      · cases found with
        | blankDefaultDomain given' => cases given.symm.trans given'
        | inDomain _ found => cases found
      · cases found with
        | defaultDomainWithoutRules given' => cases given.symm.trans given'
        | inDomain _ found => cases found
  | some domain =>
      apply Enumerates.append
      · apply Enumerates.ofName
        intro finding
        constructor
        · intro found
          cases found with
          | blankDefaultDomain given' blank =>
              cases given.symm.trans given'
              exact ⟨blank, rfl⟩
          | inDomain _ found => cases found
        · rintro ⟨blank, rfl⟩
          exact .blankDefaultDomain given blank
      · rw [← ite_not]
        apply Enumerates.single
        intro finding
        rw [Dict.contains, Bool.not_eq_true, Option.isSome_eq_false_iff, Option.isNone_iff_eq_none]
        constructor
        · intro found
          cases found with
          | defaultDomainWithoutRules given' missing =>
              cases given.symm.trans given'
              exact ⟨missing, rfl⟩
          | inDomain _ found => cases found
        · rintro ⟨missing, rfl⟩
          exact .defaultDomainWithoutRules given missing
      · rintro _ _ rfl rfl
        exact .right _ (.right _ (.left _ _ Nat.zero_lt_one))

/-- The default domain comes first, then the domains by name. -/
theorem enumerates_findings :
    Enumerates document.Finds (fun _ => True) document.findings := by
  have ofDomains : Enumerates document.Finds
      (fun place => ∃ entry ∈ document.domains.entries, place.InDomain entry.1)
      (document.domains.entries.flatMap fun entry => entry.2.findings entry.1) := by
    apply Enumerates.flatMap document.domains.sorted
    · rintro ⟨domain, rules⟩ member
      apply (rules.enumerates_findings domain).congr
      intro place finding
      apply and_congr_right
      intro inDomain
      exact (Finds.iff_of_inDomain (Dict.find?_eq_some_iff.mpr member) inDomain).symm
    · intro first second less left right inFirst inSecond
      exact inFirst.before inSecond less
  apply (enumerates_defaultDomainFindings.append ofDomains _).congr
  · intro place finding
    apply and_congr_left
    intro found
    rw [iff_true]
    cases found with
    | blankDefaultDomain => exact .inl (.inl rfl)
    | defaultDomainWithoutRules => exact .inl (.inr rfl)
    | inDomain configured found =>
        exact .inr ⟨_, Dict.find?_eq_some_iff.mp configured, found.inDomain⟩
  · rintro _ right (rfl | rfl) ⟨_, _, rest, rank⟩
    all_goals
      rw [DocumentPlace.Before, rank]
      exact .left _ _ Nat.one_pos

end Document

theorem warning_mem_of_mem_events {findings : List Finding} {event : Event}
    (member : event ∈ (Finding.conclude findings).events) : .warning event ∈ findings := by
  induction findings with
  | nil => cases member
  | cons head rest ih =>
      cases head with
      | fault error => cases member
      | warning first =>
          rcases List.mem_cons.mp member with rfl | later
          · exact List.mem_cons_self
          · exact List.mem_cons_of_mem _ (ih later)

section Conclusion

variable {placed : List (DocumentPlace × Finding)}
  (ordered : placed.Pairwise fun left right => left.1.Before right.1)

include ordered

/-- The error is that of the first fault. -/
theorem value_conclude_eq_error_iff {error : DocumentError} :
    (Finding.conclude (placed.map Prod.snd)).value = .error error ↔
      ∃ place, (place, .fault error) ∈ placed ∧
        ∀ earlier other, (earlier, .fault other) ∈ placed → ¬earlier.Before place := by
  induction placed with
  | nil => simp [Finding.conclude]
  | cons head rest ih =>
      rcases List.pairwise_cons.mp ordered with ⟨headFirst, restOrdered⟩
      rcases head with ⟨place, fault | event⟩
      · constructor
        · rintro ⟨⟩
          refine ⟨place, List.mem_cons_self, ?_⟩
          intro earlier other member
          rcases List.mem_cons.mp member with same | later
          · cases same
            exact DocumentPlace.Before.irrefl place
          · exact (headFirst _ later).asymm
        · rintro ⟨first, member, isFirst⟩
          rcases List.mem_cons.mp member with same | later
          · cases same
            rfl
          · exact absurd (headFirst _ later) (isFirst place fault List.mem_cons_self)
      · simp only [List.map_cons, Finding.conclude, ih restOrdered, List.mem_cons, Prod.mk.injEq,
          reduceCtorEq, and_false, false_or]

/-- The events are the warnings before the first fault. -/
theorem events_conclude :
    ∃ places : List DocumentPlace, places.Pairwise DocumentPlace.Before ∧
      (∀ place, place ∈ places ↔ (∃ event, (place, .warning event) ∈ placed) ∧
        ∀ earlier error, (earlier, .fault error) ∈ placed → ¬earlier.Before place) ∧
      List.Forall₂ (fun place event => (place, .warning event) ∈ placed) places
        (Finding.conclude (placed.map Prod.snd)).events := by
  induction placed with
  | nil => exact ⟨[], .nil, by simp, .nil⟩
  | cons head rest ih =>
      rcases List.pairwise_cons.mp ordered with ⟨headFirst, restOrdered⟩
      rcases head with ⟨place, fault | event⟩
      · refine ⟨[], .nil, ?_, .nil⟩
        intro other
        simp only [List.not_mem_nil, false_iff]
        rintro ⟨⟨event, member⟩, noneEarlier⟩
        rcases List.mem_cons.mp member with same | later
        · cases same
        · exact noneEarlier place fault List.mem_cons_self (headFirst _ later)
      · rcases ih restOrdered with ⟨places, placesOrdered, isWarned, warned⟩
        refine ⟨place :: places, ?_, ?_, ?_⟩
        · rw [List.pairwise_cons]
          refine ⟨?_, placesOrdered⟩
          intro later member
          rcases (isWarned later).mp member with ⟨⟨_, inRest⟩, _⟩
          exact headFirst _ inRest
        · intro other
          constructor
          · intro member
            rcases List.mem_cons.mp member with rfl | later
            · refine ⟨⟨event, List.mem_cons_self⟩, ?_⟩
              intro earlier error isFault
              exact (headFirst _ (List.mem_of_ne_of_mem (by simp) isFault)).asymm
            · rcases (isWarned other).mp later with ⟨⟨otherEvent, inRest⟩, noneEarlier⟩
              refine ⟨⟨otherEvent, List.mem_cons_of_mem _ inRest⟩, ?_⟩
              intro earlier error isFault
              exact noneEarlier earlier error (List.mem_of_ne_of_mem (by simp) isFault)
          · rintro ⟨⟨otherEvent, member⟩, noneEarlier⟩
            rcases List.mem_cons.mp member with same | inRest
            · cases same
              exact List.mem_cons_self
            · apply List.mem_cons_of_mem
              apply (isWarned other).mpr
              refine ⟨⟨otherEvent, inRest⟩, ?_⟩
              intro earlier error isFault
              exact noneEarlier earlier error (List.mem_cons_of_mem _ isFault)
        · refine .cons List.mem_cons_self (warned.imp ?_)
          intro other otherEvent member
          exact List.mem_cons_of_mem _ member

end Conclusion

namespace Document

/-- What validation promises of its answer and of its events. -/
structure ReportsFirstViolation (document : Document) : Prop where
  accepts_iff : document.validate.value = .ok () ↔ document.WellFormed
  /-- The error is that of the first violation. -/
  refuses_iff : ∀ error, document.validate.value = .error error ↔
    ∃ place, document.Finds place (.fault error) ∧
      ∀ earlier other, document.Finds earlier (.fault other) → ¬earlier.Before place
  /-- The events are the warnings at the places before the first violation, in their order. -/
  warns : ∃ places : List DocumentPlace, places.Pairwise DocumentPlace.Before ∧
    (∀ place, place ∈ places ↔ (∃ event, document.Finds place (.warning event)) ∧
      ∀ earlier error, document.Finds earlier (.fault error) → ¬earlier.Before place) ∧
    List.Forall₂ (fun place event => document.Finds place (.warning event)) places
      document.validate.events
  level : ∀ event ∈ document.validate.events, event.level = .warn

/-- Validation accepts the well-formed documents, reports the first violation of any other, and
warns of what it passed on the way. -/
theorem validate_reportsFirstViolation (document : Document) :
    document.ReportsFirstViolation := by
  rcases document.enumerates_findings with ⟨placed, listed, ordered, isPlaced⟩
  simp only [true_and] at isPlaced
  have refused := @value_conclude_eq_error_iff placed ordered
  have warned := events_conclude ordered
  simp only [listed, isPlaced] at refused warned
  constructor
  case accepts_iff =>
    rw [validate, Finding.value_conclude_eq_ok_iff, wellFormed_iff, ← listed]
    simp only [List.mem_map, Prod.exists, exists_eq_right, isPlaced, not_exists]
    exact forall_comm
  case refuses_iff =>
    intro error
    exact refused
  case warns => exact warned
  case level =>
    intro event member
    have inFindings := warning_mem_of_mem_events member
    rw [← listed, List.mem_map] at inFindings
    rcases inFindings with ⟨⟨place, _⟩, inPlaced, rfl⟩
    exact ((isPlaced _ _).mp inPlaced).level

end Document

end WorkflowGuard
