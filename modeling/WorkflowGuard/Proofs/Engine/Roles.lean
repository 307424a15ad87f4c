import Mathlib
import WorkflowGuard.Engine

/-!
# More roles, more permissions

Rules can ask for a role but never for its absence, and a question is looked up by the ticket
alone. A principal who has every role of another one may therefore do whatever that one may.
This file proves so for every registry: moves, the states on offer, and the rules of groups.

The comparison starts at a single condition. A rule with a fault and an edge without a rule are
fixed answers, which are the same for both principals, so they need no argument of their own.
-/

namespace WorkflowGuard

/-- Every role that the first principal holds is held by the second. -/
def Principal.Within (lesser greater : Principal) : Prop :=
  ∀ role, lesser.holds role = true → greater.holds role = true

variable {lesser greater : Principal} {ticket : Ticket} {now : Instant}

/-- With more roles, every condition that held still holds. -/
theorem Condition.holds_of_within (within : lesser.Within greater) {condition : Condition}
    {fields : CustomFields} (holds : condition.holds fields ticket lesser now = true) :
    condition.holds fields ticket greater now = true := by
  cases condition with
  | hasRole role => exact within role holds
  | time field comparison value => exact holds
  | number key comparison value => exact holds
  | truth key expected negate => exact holds
  | text key expected negate => exact holds
  | blank key expectBlank => exact holds

/-- So does every predicate, for it is a conjunction of conditions. -/
theorem Predicate.holds_of_within (within : lesser.Within greater) {predicate : Predicate}
    (holds : predicate.holds ticket lesser now = true) :
    predicate.holds ticket greater now = true := by
  cases predicate with
  | constant result => exact holds
  | all conditions =>
      simp only [Predicate.holds, List.all_eq_true] at holds ⊢
      intro condition member
      apply Condition.holds_of_within within
      exact holds condition member

namespace Registry

theorem allows_of_within (within : lesser.Within greater) {registry : Registry}
    {target : String} (allowed : registry.allows ticket target lesser now = true) :
    registry.allows ticket target greater now = true := by
  simp only [allows, Bool.and_eq_true] at allowed ⊢
  exact ⟨allowed.1, Predicate.holds_of_within within allowed.2⟩

/-- What the first principal may do with a ticket, the second may do. -/
structure Favors (registry : Registry) (ticket : Ticket) (now : Instant)
    (lesser greater : Principal) : Prop where
  allows : ∀ target, registry.allows ticket target lesser now = true →
    registry.allows ticket target greater now = true
  validNextStates : (registry.validNextStates ticket lesser now).Sublist
    (registry.validNextStates ticket greater now)
  matchingRules : ∀ group, (registry.matchingRules ticket lesser group now).Sublist
    (registry.matchingRules ticket greater group now)

/-- Whatever document a registry was built from, more roles never take a permission away. -/
theorem permissions_grow_with_roles (within : lesser.Within greater) (registry : Registry)
    (ticket : Ticket) (now : Instant) : registry.Favors ticket now lesser greater := by
  constructor
  case allows =>
    intro target allowed
    exact allows_of_within within allowed
  case validNextStates =>
    apply List.monotone_filter_right
    intro target allowed
    exact allows_of_within within allowed
  case matchingRules =>
    intro group
    apply List.monotone_filter_right
    intro rule holds
    exact Predicate.holds_of_within within holds

/-- A rule asks for a role and for a field not to be set, another one cannot be compiled, and
a third edge has no rule. -/
def mixedGuards : Document where
  defaultDomain := some "it"
  domains := ⟨[("it",
    { workflow := ⟨[("Open", ["Closed", "Held", "Done"])], by decide⟩
      transitions :=
        [⟨"Open", "Closed",
            [.ofRole "Admin", .ofField "locked" "!=" (.bool true)]⟩,
          ⟨"Open", "Held", [{}]⟩]
      groups := ⟨[("g",
        [{ conditions := [.ofRole "Agent"] }, { conditions := [.ofRole "Admin"] }])],
        by decide⟩ })], by decide⟩

def blankDomainTicket : Ticket :=
  .new .nil .epoch " " "Open"

def agent : Principal :=
  (RoleSet.ofNames ["Agent"]).principal

def admin : Principal :=
  (RoleSet.ofNames ["Admin", "Agent"]).principal

theorem permissions_grow_with_admin :
    agent.Within admin ∧
      (build mixedGuards (Fingerprint.ofBytes [])).validNextStates blankDomainTicket agent .epoch =
        ["Done"] ∧
      (build mixedGuards (Fingerprint.ofBytes [])).validNextStates blankDomainTicket admin .epoch =
        ["Closed", "Done"] ∧
      (build mixedGuards (Fingerprint.ofBytes [])).Favors blankDomainTicket .epoch agent admin := by
  have within : agent.Within admin := by
    intro role holds
    simp only [agent, admin, RoleSet.principal, List.contains_iff_mem,
      RoleSet.mem_ofNames] at holds ⊢
    exact List.mem_cons_of_mem _ holds
  refine ⟨within, ?_, ?_, permissions_grow_with_roles within _ _ _⟩
  · decide +kernel
  · decide +kernel

end Registry

end WorkflowGuard
