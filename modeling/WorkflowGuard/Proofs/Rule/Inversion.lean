import WorkflowGuard.Rule.Compile

/-!
# Where compiled conditions come from

Each function of the compiler is read backwards: if it gives a condition, then its arguments
have the shape stated here and the condition is the one stated. Proofs about compiled rules use
these facts and do not open the compiler again.
-/

namespace WorkflowGuard

/-- A chain of two steps succeeds when the first does and the second does on its result. -/
theorem RuleError.bind_eq_ok_iff {α β : Type} {first : Except RuleError α}
    {next : α → Except RuleError β} {result : β} :
    (first >>= next) = .ok result ↔ ∃ value, first = .ok value ∧ next value = .ok result := by
  cases first with
  | error error => simp [bind, Except.bind]
  | ok value => simp [bind, Except.bind]

namespace Descriptor

/-- A condition on a field computed from time compares with the number that the value reads as. -/
theorem timeCondition_eq_ok {index : Nat} {field : TimeField} {operator : Operator}
    {value : Option Literal} {condition : Condition}
    (compiled : timeCondition index field operator value = .ok condition) :
    ∃ comparison literal number, operator = .compare comparison ∧ value = some literal ∧
      literal.number? = some number ∧ condition = .time field comparison number := by
  simp only [timeCondition] at compiled
  cases operator with
  | isEmpty => simp [Operator.comparison?] at compiled
  | isNotEmpty => simp [Operator.comparison?] at compiled
  | compare comparison =>
      cases value with
      | none => simp [Operator.comparison?] at compiled
      | some literal =>
          cases reading : literal.number? with
          | none => simp [Operator.comparison?, reading] at compiled
          | some number =>
              simp only [Operator.comparison?, reading, Except.ok.injEq] at compiled
              exact ⟨comparison, literal, number, rfl, rfl, reading, compiled.symm⟩

/-- A value is compared as a number, else as a truth value, else as a text; only numbers have an
order. -/
theorem valueCondition_eq_ok {index : Nat} {key : String} {comparison : Comparison}
    {literal : Literal} {condition : Condition}
    (compiled : valueCondition index key comparison literal = .ok condition) :
    (∃ number, literal.number? = some number ∧
        condition = .number key comparison number) ∨
      (∃ expected, literal.number? = none ∧ literal.truth? = some expected ∧
        comparison.isOrdering = false ∧
        condition = .truth key expected (comparison == .ne)) ∨
      (∃ expected, literal.number? = none ∧ literal.truth? = none ∧
        literal.text? = some expected ∧ comparison.isOrdering = false ∧
        condition = .text key expected (comparison == .ne)) := by
  rw [valueCondition] at compiled
  cases numeric : literal.number? with
  | some number =>
      simp only [numeric, Except.ok.injEq] at compiled
      exact Or.inl ⟨number, rfl, compiled.symm⟩
  | none =>
      right
      cases truth : literal.truth? with
      | some expected =>
          simp only [numeric, truth] at compiled
          split at compiled
          · cases compiled
          · rename_i unordered
            exact Or.inl ⟨expected, rfl, rfl, by simpa using unordered,
              (Except.ok.inj compiled).symm⟩
      | none =>
          cases text : literal.text? with
          | none => simp [numeric, truth, text] at compiled
          | some expected =>
              simp only [numeric, truth, text] at compiled
              split at compiled
              · cases compiled
              · rename_i unordered
                exact Or.inr ⟨expected, rfl, rfl, rfl, by simpa using unordered,
                  (Except.ok.inj compiled).symm⟩

theorem roleConditions_eq_ok {index : Nat} {role : Option String} {conditions : List Condition}
    (compiled : roleConditions index role = .ok conditions) :
    conditions = (role.map Condition.hasRole).toList := by
  simp only [roleConditions] at compiled
  cases role with
  | none => exact (Except.ok.inj compiled).symm
  | some name =>
      simp only at compiled
      split at compiled
      · cases compiled
      · exact (Except.ok.inj compiled).symm

/-- The operator that a descriptor spells; equality if it spells none. -/
def writtenOperator? (descriptor : Descriptor) : Option Operator :=
  match descriptor.operator with
  | none => some (.compare .eq)
  | some text => Operator.read? text

theorem operator?_eq_ok {index : Nat} {descriptor : Descriptor} {operator : Operator}
    (read : operator? index descriptor.operator = .ok operator) :
    descriptor.writtenOperator? = some operator := by
  simp only [operator?] at read
  rw [writtenOperator?]
  cases spelled : descriptor.operator with
  | none =>
      rw [spelled] at read
      exact congrArg some (Except.ok.inj read)
  | some text =>
      rw [spelled] at read
      cases known : Operator.read? text with
      | none => simp [known] at read
      | some other =>
          simp only [known, Except.ok.injEq] at read
          exact known.trans (congrArg some read)

/-- A descriptor without a field has no condition on fields; one with a field has one. -/
theorem fieldConditions_eq_ok {index : Nat} {descriptor : Descriptor}
    {conditions : List Condition}
    (compiled : fieldConditions index descriptor = .ok conditions) :
    (descriptor.field = none ∧ conditions = []) ∨
      ∃ field operator condition, descriptor.field = some field ∧
        descriptor.writtenOperator? = some operator ∧
        fieldCondition index field operator descriptor.value = .ok condition ∧
        conditions = [condition] := by
  rw [fieldConditions] at compiled
  cases named : descriptor.field with
  | none =>
      rw [named] at compiled
      exact Or.inl ⟨rfl, (Except.ok.inj compiled).symm⟩
  | some field =>
      right
      simp only [named] at compiled
      split at compiled
      · cases compiled
      · rcases RuleError.bind_eq_ok_iff.mp compiled with ⟨operator, read, compiled⟩
        rcases RuleError.bind_eq_ok_iff.mp compiled with ⟨condition, lowered, compiled⟩
        exact ⟨field, operator, condition, rfl, operator?_eq_ok read, lowered,
          (Except.ok.inj compiled).symm⟩

/-- The condition on the role comes before the one on the field. -/
theorem conditions_eq_ok {index : Nat} {descriptor : Descriptor} {conditions : List Condition}
    (compiled : descriptor.conditions index = .ok conditions) :
    ∃ ofRole ofField, roleConditions index descriptor.role = .ok ofRole ∧
      fieldConditions index descriptor = .ok ofField ∧ conditions = ofRole ++ ofField := by
  rw [Descriptor.conditions] at compiled
  split at compiled
  · cases compiled
  · rcases RuleError.bind_eq_ok_iff.mp compiled with ⟨ofRole, role, compiled⟩
    rcases RuleError.bind_eq_ok_iff.mp compiled with ⟨ofField, field, compiled⟩
    exact ⟨ofRole, ofField, role, field, (Except.ok.inj compiled).symm⟩

/-- The conditions of a list are those of its head, and then those of the rest. -/
theorem allConditions_cons_eq_ok {index : Nat} {descriptor : Descriptor}
    {rest : List Descriptor} {conditions : List Condition}
    (compiled : allConditions index (descriptor :: rest) = .ok conditions) :
    ∃ first others, descriptor.conditions index = .ok first ∧
      allConditions (index + 1) rest = .ok others ∧ conditions = first ++ others := by
  rw [allConditions] at compiled
  rcases RuleError.bind_eq_ok_iff.mp compiled with ⟨first, head, compiled⟩
  rcases RuleError.bind_eq_ok_iff.mp compiled with ⟨others, tail, compiled⟩
  exact ⟨first, others, head, tail, (Except.ok.inj compiled).symm⟩

end Descriptor

/-- A rule that compiles is the conjunction of all its conditions. -/
theorem Predicate.compile?_eq_ok {descriptors : List Descriptor} {predicate : Predicate}
    (compiled : Predicate.compile? descriptors = .ok predicate) :
    ∃ conditions, Descriptor.allConditions 0 descriptors = .ok conditions ∧
      predicate = Predicate.ofConditions conditions := by
  rw [Predicate.compile?] at compiled
  cases lowered : Descriptor.allConditions 0 descriptors with
  | error error =>
      rw [lowered] at compiled
      cases compiled
  | ok conditions =>
      rw [lowered] at compiled
      exact ⟨conditions, rfl, (Except.ok.inj compiled).symm⟩

end WorkflowGuard
