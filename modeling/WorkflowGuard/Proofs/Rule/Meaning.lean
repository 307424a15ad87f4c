import Mathlib
import WorkflowGuard.Proofs.Rule.Inversion
import WorkflowGuard.Proofs.Ticket.Payload

/-!
# What descriptors mean

A descriptor can be read without compiling it: it asks for a role, and for a comparison between
what the ticket holds and the value as the author wrote it. This file states that reading, from
the data in the ticket's payload and the timestamps upwards, and proves that a rule which
compiles holds exactly when every descriptor of it does.

The reading is a proposition and looks at the value each time. The compiler looks at the value
once and leaves a condition with a flag for negation, so the two meet in one fact for each sort
of condition. A rule is then treated by induction over its descriptors.
-/

namespace WorkflowGuard

namespace Descriptor

/-- The days that a reserved name stands for. -/
def dayCount (ticket : Ticket) (now : Instant) : TimeField → Float
  | .daysUntilBreach =>
      (ticket.target.map fun target => TimeField.daysOfMillis (target.millisSince now)).getD
        (Decimal.ofNat 99999)
  | .ageDays => TimeField.daysOfMillis (now.millisSince ticket.createdAt)

/-- Two things without an order are equal, or are not. -/
def Asserts (comparison : Comparison) (equal : Prop) : Prop :=
  match comparison with
  | .eq => equal
  | .ne => ¬equal
  | .gt | .ge | .lt | .le => False

/-- Stored data compares with a value in the first way in which the value can be read. -/
def Compares (stored : Stored) (comparison : Comparison) (literal : Literal) : Prop :=
  match literal.number?, literal.truth?, literal.text? with
  | some number, _, _ => comparison.holds stored.number number = true
  | none, some expected, _ => Asserts comparison (stored.IsTrue ↔ expected = true)
  | none, none, some expected => Asserts comparison (stored.IsText expected)
  | none, none, none => False

/-- A field of the ticket satisfies an operator. A reserved name stands for days, whatever the
payload holds under it. -/
def FieldHolds (ticket : Ticket) (now : Instant) (field : String) (operator : Operator)
    (value : Option Literal) : Prop :=
  match TimeField.ofName? field, operator, value with
  | some timeField, .compare comparison, some literal =>
      ∃ number, literal.number? = some number ∧
        comparison.holds (dayCount ticket now timeField) number = true
  | none, .isEmpty, _ => (Stored.ofTicket ticket field).Missing
  | none, .isNotEmpty, _ => ¬(Stored.ofTicket ticket field).Missing
  | none, .compare comparison, some literal =>
      Compares (Stored.ofTicket ticket field) comparison literal
  | _, _, _ => False

/-- The descriptor, read directly, holds for a ticket and a principal at an instant. -/
structure Holds (descriptor : Descriptor) (ticket : Ticket) (principal : Principal)
    (now : Instant) : Prop where
  role : ∀ role, descriptor.role = some role → principal.holds role = true
  field : ∀ field, descriptor.field = some field →
    ∃ operator, descriptor.writtenOperator? = some operator ∧
      FieldHolds ticket now field operator descriptor.value

/-- A flag for negation says the same as the comparison it was made from. -/
theorem bne_eq_true_iff_asserts {comparison : Comparison}
    (unordered : comparison.isOrdering = false) {result : Bool} {equal : Prop}
    (decided : result = true ↔ equal) :
    (result != (comparison == .ne)) = true ↔ Asserts comparison equal := by
  cases comparison with
  | eq =>
      change (result != false) = true ↔ equal
      simpa using decided
  | ne =>
      change (result != true) = true ↔ ¬equal
      simp [← decided]
  | gt => simp [Comparison.isOrdering] at unordered
  | ge => simp [Comparison.isOrdering] at unordered
  | lt => simp [Comparison.isOrdering] at unordered
  | le => simp [Comparison.isOrdering] at unordered

variable {ticket : Ticket} {principal : Principal} {now : Instant}

theorem dayCount_eq_days (field : TimeField) :
    dayCount ticket now field = field.days ticket now := by
  cases field with
  | ageDays => rfl
  | daysUntilBreach =>
      rw [dayCount, TimeField.days]
      cases ticket.target with
      | none => rfl
      | some target => rfl

/-- A compiled comparison holds just when what is stored under the key compares with the literal.
-/
theorem valueCondition_holds_iff {index : Nat} {key : String} {comparison : Comparison}
    {literal : Literal} {condition : Condition}
    (compiled : valueCondition index key comparison literal = .ok condition) :
    condition.holds (.ofPayload ticket.payload) ticket principal now = true ↔
      Compares (Stored.ofTicket ticket key) comparison literal := by
  rw [Compares]
  rcases valueCondition_eq_ok compiled with ⟨number, numeric, rfl⟩ |
    ⟨expected, notNumeric, truth, unordered, rfl⟩ |
    ⟨expected, notNumeric, notTruth, text, unordered, rfl⟩
  · simp only [numeric, Condition.holds, CustomFields.number_ofPayload]
  · simp only [notNumeric, truth, Condition.holds]
    apply bne_eq_true_iff_asserts unordered
    rw [← CustomFields.truth_ofPayload_iff, beq_iff_eq, Bool.eq_iff_iff]
  · simp only [notNumeric, notTruth, text, Condition.holds]
    apply bne_eq_true_iff_asserts unordered
    exact CustomFields.text_ofPayload_iff ticket key expected

/-- A compiled condition on a field means what the field, the operator and the value say. -/
theorem fieldCondition_holds_iff {index : Nat} {field : String} {operator : Operator}
    {value : Option Literal} {condition : Condition}
    (compiled : fieldCondition index field operator value = .ok condition) :
    condition.holds (.ofPayload ticket.payload) ticket principal now = true ↔
      FieldHolds ticket now field operator value := by
  rw [fieldCondition] at compiled
  simp only [FieldHolds]
  cases reserved : TimeField.ofName? field with
  | some timeField =>
      rw [reserved] at compiled
      rcases timeCondition_eq_ok compiled with
        ⟨comparison, literal, number, rfl, rfl, reading, rfl⟩
      simp [Condition.holds, reading, dayCount_eq_days]
  | none =>
      rw [reserved] at compiled
      simp only [customCondition] at compiled
      cases operator with
      | isEmpty =>
          rw [← Except.ok.inj compiled, ← CustomFields.isBlank_ofPayload_iff]
          simp [Condition.holds]
      | isNotEmpty =>
          rw [← Except.ok.inj compiled, ← CustomFields.isBlank_ofPayload_iff]
          simp [Condition.holds]
      | compare comparison =>
          cases value with
          | none => cases compiled
          | some literal => exact valueCondition_holds_iff compiled

theorem roleConditions_holds_iff {index : Nat} {role : Option String}
    {conditions : List Condition} (compiled : roleConditions index role = .ok conditions) :
    conditions.all (·.holds (.ofPayload ticket.payload) ticket principal now) = true ↔
      ∀ name, role = some name → principal.holds name = true := by
  rw [roleConditions_eq_ok compiled]
  cases role with
  | none => simp
  | some name => simp [Condition.holds]

theorem fieldConditions_holds_iff {index : Nat} {descriptor : Descriptor}
    {conditions : List Condition}
    (compiled : fieldConditions index descriptor = .ok conditions) :
    conditions.all (·.holds (.ofPayload ticket.payload) ticket principal now) = true ↔
      ∀ field, descriptor.field = some field →
        ∃ operator, descriptor.writtenOperator? = some operator ∧
          FieldHolds ticket now field operator descriptor.value := by
  rcases fieldConditions_eq_ok compiled with ⟨unnamed, rfl⟩ |
    ⟨field, operator, condition, named, written, lowered, rfl⟩
  · simp [unnamed]
  · simp [named, written, fieldCondition_holds_iff lowered]

theorem conditions_holds_iff {index : Nat} {descriptor : Descriptor}
    {conditions : List Condition} (compiled : descriptor.conditions index = .ok conditions) :
    conditions.all (·.holds (.ofPayload ticket.payload) ticket principal now) = true ↔
      descriptor.Holds ticket principal now := by
  rcases conditions_eq_ok compiled with ⟨ofRole, ofField, role, field, rfl⟩
  rw [List.all_append, Bool.and_eq_true, roleConditions_holds_iff role,
    fieldConditions_holds_iff field]
  constructor
  · rintro ⟨roleHolds, fieldHolds⟩
    exact ⟨roleHolds, fieldHolds⟩
  · intro holds
    exact ⟨holds.role, holds.field⟩

/-- The conditions of a rule hold just when each of its descriptors does. -/
theorem allConditions_holds_iff {index : Nat} {descriptors : List Descriptor}
    {conditions : List Condition} (compiled : allConditions index descriptors = .ok conditions) :
    conditions.all (·.holds (.ofPayload ticket.payload) ticket principal now) = true ↔
      ∀ descriptor ∈ descriptors, descriptor.Holds ticket principal now := by
  induction descriptors generalizing index conditions with
  | nil =>
      rw [← Except.ok.inj compiled]
      simp
  | cons descriptor rest ih =>
      rcases allConditions_cons_eq_ok compiled with ⟨first, others, head, tail, rfl⟩
      rw [List.all_append, Bool.and_eq_true, conditions_holds_iff head, ih tail,
        List.forall_mem_cons]

end Descriptor

namespace Predicate

end Predicate

end WorkflowGuard
