import WorkflowGuard.Proofs.Rule.Composition

/-!
# Faults of descriptors that name a field

The faults that a descriptor with a field can have are listed here in the order in which they
are looked for, each with what must be the case for it and with the error that reports it. The
list speaks of the descriptor as the author wrote it, and not of the compiler.

Main statement: compiling the descriptor fails exactly if it has one of these faults, and then
with the error of the first. The proof follows the compiler once. Each of its branches either
ends in a fault, and the checks passed on the way rule out the earlier ones, or it ends in a
condition, and they rule out all. A fault that comes first is then the fault reported, for no
two errors are listed at one place.
-/

namespace WorkflowGuard

namespace Literal

/-- The literal is a finite number, or a text that spells one. -/
def IsNumeric : Literal → Prop
  | .number value => value.isFinite = true
  | .text value => ∃ number, Decimal.read? (Text.trim value).toList = some number ∧
      number.isFinite = true
  | .bool _ | .structured _ => False

/-- The literal is raw data, such as an array or an object. -/
def IsStructured (literal : Literal) : Prop :=
  ∃ value, literal = .structured value

theorem number?_eq_none_iff {literal : Literal} : literal.number? = none ↔ ¬literal.IsNumeric := by
  cases literal with
  | bool value => simp [number?, IsNumeric]
  | number value => simp [number?, IsNumeric]
  | text value => simp [number?, IsNumeric, Option.filter_eq_none_iff]
  | structured value => simp [number?, IsNumeric]

theorem isNumeric_of_number? {literal : Literal} {number : Float}
    (reading : literal.number? = some number) : literal.IsNumeric := by
  apply Classical.byContradiction
  intro unreadable
  rw [number?_eq_none_iff.mpr unreadable] at reading
  cases reading

theorem text?_eq_none_iff {literal : Literal} : literal.text? = none ↔ literal.IsStructured := by
  cases literal <;> simp [text?, IsStructured]

theorem truth?_of_isStructured {literal : Literal} (structured : literal.IsStructured) :
    literal.truth? = none := by
  rcases structured with ⟨value, rfl⟩
  rfl

end Literal

namespace Operator

theorem asciiLower_trim_of_read? {text : String} {operator : Operator}
    (found : read? text = some operator) :
    Text.asciiLower (Text.trim text) = operator.spelling.toList := by
  rw [read?] at found
  have matched := List.find?_some found
  rw [beq_iff_eq] at matched
  exact matched.symm

/-- An operator is read from its spelling, in any letter case and with white space around it. -/
theorem read?_eq_some_iff {text : String} {operator : Operator} :
    read? text = some operator ↔
      Text.asciiLower (Text.trim text) = operator.spelling.toList := by
  constructor
  · exact asciiLower_trim_of_read?
  · intro spelled
    -- The text and the spelling agree in all that reading looks at.
    have spelling := asciiLower_trim_of_read? (read?_spelling operator)
    have same : read? text = read? operator.spelling := by
      simp only [read?, spelled, spelling]
    rw [same, read?_spelling]

theorem read?_eq_none_iff {text : String} :
    read? text = none ↔
      ∀ operator : Operator, Text.asciiLower (Text.trim text) ≠ operator.spelling.toList := by
  rw [Option.eq_none_iff_forall_ne_some]
  exact forall_congr' fun operator => not_congr read?_eq_some_iff

end Operator

namespace Descriptor

/-- The operator that the descriptor names, in any ASCII case and with white space around it;
equality if it names none. -/
def Spells (descriptor : Descriptor) (operator : Operator) : Prop :=
  match descriptor.operator with
  | none => operator = .compare .eq
  | some text => Text.asciiLower (Text.trim text) = operator.spelling.toList

/-- The faults of a descriptor with a field at a position of its rule, by the place at which they
are looked for, with the errors that report them. -/
inductive Fault (descriptor : Descriptor) (field : String) (index : Nat) :
    Nat → RuleError → Prop where
  | blankRole {role : String} (named : descriptor.role = some role)
      (blank : Text.Blank role) :
      Fault descriptor field index 0 (.blankName index "role")
  | blankField (blank : Text.Blank field) :
      Fault descriptor field index 1 (.blankName index "field")
  | unknownOperator {text : String} (written : descriptor.operator = some text)
      (unknown : ∀ operator : Operator,
        Text.asciiLower (Text.trim text) ≠ operator.spelling.toList) :
      Fault descriptor field index 2 (.unsupportedOperator index text)
  | timeEmptiness {timeField : TimeField} {operator : Operator}
      (reserved : field = timeField.name) (spelled : descriptor.Spells operator)
      (emptiness : operator = .isEmpty ∨ operator = .isNotEmpty) :
      Fault descriptor field index 3 (.invalidTimeComparison index field operator.spelling)
  | timeWithoutValue {timeField : TimeField} {operator : Operator}
      (reserved : field = timeField.name) (spelled : descriptor.Spells operator)
      (missing : descriptor.value = none) :
      Fault descriptor field index 4 (.missingValue index operator.spelling)
  | timeOperand {timeField : TimeField} {operator : Operator} {literal : Literal}
      (reserved : field = timeField.name) (spelled : descriptor.Spells operator)
      (given : descriptor.value = some literal) (unreadable : ¬literal.IsNumeric) :
      Fault descriptor field index 5
        (.incompatibleOperand index operator.spelling literal.kind)
  | withoutValue {comparison : Comparison}
      (custom : ∀ timeField : TimeField, field ≠ timeField.name)
      (spelled : descriptor.Spells (.compare comparison)) (missing : descriptor.value = none) :
      Fault descriptor field index 6
        (.missingValue index (Operator.compare comparison).spelling)
  | operand {comparison : Comparison} {literal : Literal}
      (custom : ∀ timeField : TimeField, field ≠ timeField.name)
      (spelled : descriptor.Spells (.compare comparison))
      (given : descriptor.value = some literal) (unreadable : ¬literal.IsNumeric)
      (refused : comparison.isOrdering = true ∨ literal.IsStructured) :
      Fault descriptor field index 7
        (.incompatibleOperand index (Operator.compare comparison).spelling literal.kind)

/-- The error reports a fault, and no fault is looked for earlier. -/
def FirstFault (descriptor : Descriptor) (field : String) (index : Nat) (error : RuleError) :
    Prop :=
  ∃ place, descriptor.Fault field index place error ∧
    ∀ earlier < place, ∀ other, ¬descriptor.Fault field index earlier other

theorem spells_iff {descriptor : Descriptor} {operator : Operator} :
    descriptor.Spells operator ↔ descriptor.writtenOperator? = some operator := by
  rw [Spells, writtenOperator?]
  cases descriptor.operator with
  | none => simp [eq_comm]
  | some text => exact Operator.read?_eq_some_iff.symm

theorem Spells.unique {descriptor : Descriptor} {left right : Operator}
    (spellsLeft : descriptor.Spells left) (spellsRight : descriptor.Spells right) :
    left = right := by
  rw [spells_iff] at spellsLeft spellsRight
  exact Option.some.inj (spellsLeft.symm.trans spellsRight)

namespace Fault

variable {descriptor : Descriptor} {field : String} {index place : Nat} {left right : RuleError}

/-- No two errors are listed at one place. -/
theorem error_unique (first : descriptor.Fault field index place left)
    (second : descriptor.Fault field index place right) : left = right := by
  cases first with
  | blankRole named blank => cases second; rfl
  | blankField blank => cases second; rfl
  | unknownOperator written unknown =>
      cases second with
      | unknownOperator written' unknown' =>
          rw [written] at written'
          cases written'
          rfl
  | timeEmptiness reserved spelled emptiness =>
      cases second with
      | timeEmptiness reserved' spelled' emptiness' =>
          cases spelled.unique spelled'
          rfl
  | timeWithoutValue reserved spelled missing =>
      cases second with
      | timeWithoutValue reserved' spelled' missing' =>
          cases spelled.unique spelled'
          rfl
  | timeOperand reserved spelled given unreadable =>
      cases second with
      | timeOperand reserved' spelled' given' unreadable' =>
          cases spelled.unique spelled'
          rw [given] at given'
          cases given'
          rfl
  | withoutValue custom spelled missing =>
      cases second with
      | withoutValue custom' spelled' missing' =>
          cases spelled.unique spelled'
          rfl
  | operand custom spelled given unreadable refused =>
      cases second with
      | operand custom' spelled' given' unreadable' refused' =>
          cases spelled.unique spelled'
          rw [given] at given'
          cases given'
          rfl

end Fault

/-- The role and the field are not blank, and the operator is the one named. What can be wrong
is only how they go together. -/
structure NamesWell (descriptor : Descriptor) (field : String) (operator : Operator) : Prop where
  role : ∀ role, descriptor.role = some role → ¬Text.Blank role
  field : ¬Text.Blank field
  spelled : descriptor.Spells operator

/-- The places of the faults that a known operator can have with a field and a value. -/
inductive Mismatch (field : String) (operator : Operator) (value : Option Literal) :
    Nat → Prop where
  | timeEmptiness {timeField : TimeField} (reserved : field = timeField.name)
      (emptiness : operator = .isEmpty ∨ operator = .isNotEmpty) :
      Mismatch field operator value 3
  | timeWithoutValue {timeField : TimeField} (reserved : field = timeField.name)
      (missing : value = none) :
      Mismatch field operator value 4
  | timeOperand {timeField : TimeField} {literal : Literal} (reserved : field = timeField.name)
      (given : value = some literal) (unreadable : ¬literal.IsNumeric) :
      Mismatch field operator value 5
  | withoutValue {comparison : Comparison}
      (custom : ∀ timeField : TimeField, field ≠ timeField.name)
      (compares : operator = .compare comparison) (missing : value = none) :
      Mismatch field operator value 6
  | operand {comparison : Comparison} {literal : Literal}
      (custom : ∀ timeField : TimeField, field ≠ timeField.name)
      (compares : operator = .compare comparison) (given : value = some literal)
      (unreadable : ¬literal.IsNumeric)
      (refused : comparison.isOrdering = true ∨ literal.IsStructured) :
      Mismatch field operator value 7

section

variable {descriptor : Descriptor} {field : String} {operator : Operator} {index place : Nat}
  {error : RuleError}

/-- When the names are well, a fault can only be that operator and value do not fit. -/
theorem NamesWell.mismatch (namesWell : descriptor.NamesWell field operator)
    (fault : descriptor.Fault field index place error) :
    Mismatch field operator descriptor.value place := by
  cases fault with
  | blankRole named blank => exact absurd blank (namesWell.role _ named)
  | blankField blank => exact absurd blank namesWell.field
  | unknownOperator written unknown =>
      have spelled := namesWell.spelled
      rw [Spells, written] at spelled
      exact absurd spelled (unknown operator)
  | timeEmptiness reserved spelled emptiness =>
      cases namesWell.spelled.unique spelled
      exact .timeEmptiness reserved emptiness
  | timeWithoutValue reserved spelled missing => exact .timeWithoutValue reserved missing
  | timeOperand reserved spelled given unreadable =>
      exact .timeOperand reserved given unreadable
  | withoutValue custom spelled missing =>
      exact .withoutValue custom (namesWell.spelled.unique spelled) missing
  | operand custom spelled given unreadable refused =>
      exact .operand custom (namesWell.spelled.unique spelled) given unreadable refused

/-- When the names are well, the first misfit is the first fault. -/
theorem NamesWell.firstFault (namesWell : descriptor.NamesWell field operator)
    (fault : descriptor.Fault field index place error)
    (first : ∀ earlier, Mismatch field operator descriptor.value earlier → place ≤ earlier) :
    descriptor.FirstFault field index error := by
  refine ⟨place, fault, ?_⟩
  intro earlier before other found
  exact Nat.not_le_of_lt before (first earlier (namesWell.mismatch found))

/-- The result of compiling is what the list of faults says: the error of the first, or success
if there is none. -/
def Decided {α : Type} (descriptor : Descriptor) (field : String) (index : Nat) :
    Except RuleError α → Prop
  | .ok _ => ∀ place error, ¬descriptor.Fault field index place error
  | .error error => descriptor.FirstFault field index error

/-- On a field computed from time, the compiler makes its checks in the order of the faults. -/
theorem NamesWell.decided_timeCondition {timeField : TimeField}
    (namesWell : descriptor.NamesWell field operator) (reserved : field = timeField.name) :
    descriptor.Decided field index
      (timeCondition index timeField operator descriptor.value) := by
  simp only [timeCondition, ← reserved]
  cases operator with
  | isEmpty =>
      apply namesWell.firstFault (.timeEmptiness reserved namesWell.spelled (.inl rfl))
      rintro earlier ⟨⟩ <;> grind
  | isNotEmpty =>
      apply namesWell.firstFault (.timeEmptiness reserved namesWell.spelled (.inr rfl))
      rintro earlier ⟨⟩ <;> grind
  | compare comparison =>
      cases value : descriptor.value with
      | none =>
          apply namesWell.firstFault (.timeWithoutValue reserved namesWell.spelled value)
          rintro earlier ⟨⟩ <;> grind
      | some literal =>
          cases reading : literal.number? with
          | none =>
              have unreadable := Literal.number?_eq_none_iff.mp reading
              simp only [Operator.comparison?, reading]
              apply namesWell.firstFault (.timeOperand reserved namesWell.spelled value unreadable)
              rintro earlier ⟨⟩ <;> grind
          | some number =>
              have numeric := Literal.isNumeric_of_number? reading
              simp only [Operator.comparison?, reading]
              intro place error fault
              cases namesWell.mismatch fault <;> grind

theorem NamesWell.decided_valueCondition {comparison : Comparison} {literal : Literal}
    (namesWell : descriptor.NamesWell field (.compare comparison))
    (custom : ∀ timeField : TimeField, field ≠ timeField.name)
    (given : descriptor.value = some literal) :
    descriptor.Decided field index (valueCondition index field comparison literal) := by
  have refuses (unreadable : ¬literal.IsNumeric)
      (refused : comparison.isOrdering = true ∨ literal.IsStructured) :
      descriptor.FirstFault field index
        (.incompatibleOperand index (Operator.compare comparison).spelling literal.kind) := by
    apply namesWell.firstFault (.operand custom namesWell.spelled given unreadable refused)
    rintro earlier ⟨⟩ <;> grind
  have accepts (numericOrEqual : literal.IsNumeric ∨
      comparison.isOrdering = false ∧ ¬literal.IsStructured) (place : Nat) (error : RuleError) :
      ¬descriptor.Fault field index place error := by
    intro fault
    cases namesWell.mismatch fault <;> grind
  -- The compiler asks for the readings in this order, and stops at the first one.
  simp only [valueCondition]
  cases reading : literal.number? with
  | some number => exact accepts (.inl (Literal.isNumeric_of_number? reading))
  | none =>
      have unreadable := Literal.number?_eq_none_iff.mp reading
      cases truth : literal.truth? with
      | some expected =>
          have unstructured : ¬literal.IsStructured := by
            intro structured
            rw [Literal.truth?_of_isStructured structured] at truth
            cases truth
          cases ordering : comparison.isOrdering with
          | true => exact refuses unreadable (.inl ordering)
          | false => exact accepts (.inr ⟨ordering, unstructured⟩)
      | none =>
          cases text : literal.text? with
          | none => exact refuses unreadable (.inr (Literal.text?_eq_none_iff.mp text))
          | some expected =>
              have unstructured : ¬literal.IsStructured := by
                intro structured
                rw [Literal.text?_eq_none_iff.mpr structured] at text
                cases text
              cases ordering : comparison.isOrdering with
              | true => exact refuses unreadable (.inl ordering)
              | false => exact accepts (.inr ⟨ordering, unstructured⟩)

theorem NamesWell.decided_customCondition (namesWell : descriptor.NamesWell field operator)
    (custom : ∀ timeField : TimeField, field ≠ timeField.name) :
    descriptor.Decided field index
      (customCondition index field operator descriptor.value) := by
  cases operator with
  | isEmpty | isNotEmpty =>
      intro place error fault
      cases namesWell.mismatch fault <;> grind
  | compare comparison =>
      cases given : descriptor.value with
      | none =>
          apply namesWell.firstFault (.withoutValue custom namesWell.spelled given)
          rintro earlier ⟨⟩ <;> grind
      | some literal => exact namesWell.decided_valueCondition custom given

/-- On either sort of field the compiler reports the first fault, or there is none. -/
theorem NamesWell.decided_fieldCondition (namesWell : descriptor.NamesWell field operator) :
    descriptor.Decided field index
      (fieldCondition index field operator descriptor.value) := by
  simp only [fieldCondition]
  cases reserved : TimeField.ofName? field with
  | some timeField =>
      exact namesWell.decided_timeCondition (TimeField.ofName?_eq_some_iff.mp reserved)
  | none =>
      apply namesWell.decided_customCondition
      intro timeField named
      rw [TimeField.ofName?_eq_some_iff.mpr named] at reserved
      cases reserved

theorem roleConditions_cases (index : Nat) (descriptor : Descriptor) :
    (∃ role, descriptor.role = some role ∧ Text.Blank role ∧
      roleConditions index descriptor.role = .error (.blankName index "role")) ∨
    ((∀ role, descriptor.role = some role → ¬Text.Blank role) ∧
      ∃ conditions, roleConditions index descriptor.role = .ok conditions) := by
  cases named : descriptor.role with
  | none => exact .inr ⟨nofun, [], rfl⟩
  | some role =>
      rcases Classical.em (Text.Blank role) with blank | notBlank
      · exact .inl ⟨role, rfl, blank, if_pos (Text.isBlank_iff.mpr blank)⟩
      · refine .inr ⟨?_, [.hasRole role], if_neg (mt Text.isBlank_iff.mp notBlank)⟩
        rintro other ⟨⟩
        exact notBlank

theorem operator?_cases (index : Nat) (descriptor : Descriptor) :
    (∃ text, descriptor.operator = some text ∧
      (∀ operator : Operator,
        Text.asciiLower (Text.trim text) ≠ operator.spelling.toList) ∧
      operator? index descriptor.operator = .error (.unsupportedOperator index text)) ∨
    ∃ operator, descriptor.Spells operator ∧
      operator? index descriptor.operator = .ok operator := by
  cases written : descriptor.operator with
  | none => exact .inr ⟨.default, by rw [Spells, written]; rfl, rfl⟩
  | some text =>
      cases known : Operator.read? text with
      | none =>
          exact .inl ⟨text, rfl, Operator.read?_eq_none_iff.mp known, by simp [operator?, known]⟩
      | some operator =>
          refine .inr ⟨operator, ?_, by simp [operator?, known]⟩
          rw [Spells, written]
          exact Operator.read?_eq_some_iff.mp known

/-- The checks of one descriptor are made in the order of the faults. -/
theorem decided_conditions (named : descriptor.field = some field) :
    descriptor.Decided field index (descriptor.conditions index) := by
  simp only [conditions, fieldConditions, named, Option.isNone_some, Bool.and_false,
    Bool.false_eq_true, if_false]
  rcases descriptor.roleConditions_cases index with
    ⟨role, given, blank, failed⟩ | ⟨roleNamed, ofRole, passed⟩
  · rw [failed]
    refine ⟨0, .blankRole given blank, ?_⟩
    intro earlier before
    exact absurd before (Nat.not_lt_zero earlier)
  · rw [passed]
    rcases Classical.em (Text.Blank field) with blank | fieldNamed
    · rw [if_pos (Text.isBlank_iff.mpr blank)]
      refine ⟨1, .blankField blank, ?_⟩
      intro earlier before other fault
      cases fault with
      | blankRole given blankRole => exact roleNamed _ given blankRole
      | _ => omega
    · rw [if_neg (mt Text.isBlank_iff.mp fieldNamed)]
      rcases descriptor.operator?_cases index with
        ⟨text, written, unknown, failed⟩ | ⟨operator, spelled, read⟩
      · rw [failed]
        refine ⟨2, .unknownOperator written unknown, ?_⟩
        intro earlier before other fault
        cases fault with
        | blankRole given blankRole => exact roleNamed _ given blankRole
        | blankField blankField => exact fieldNamed blankField
        | _ => omega
      · have decided : descriptor.Decided field index
            (fieldCondition index field operator descriptor.value) :=
          NamesWell.decided_fieldCondition ⟨roleNamed, fieldNamed, spelled⟩
        rw [read]
        simp only [bind, Except.bind]
        cases compiled : fieldCondition index field operator descriptor.value with
        | error error =>
            rw [compiled] at decided
            exact decided
        | ok condition =>
            rw [compiled] at decided
            exact decided

end

/-- What compiling reports is the first fault, and it succeeds if there is none. -/
theorem Decided.error_iff {α : Type} {descriptor : Descriptor} {field : String} {index : Nat}
    {result : Except RuleError α} (decided : descriptor.Decided field index result)
    (error : RuleError) :
    result = .error error ↔ descriptor.FirstFault field index error := by
  cases result with
  | ok value =>
      constructor
      · intro failed
        cases failed
      · rintro ⟨place, fault, _⟩
        exact absurd fault (decided place error)
  | error reported =>
      constructor
      · rintro ⟨⟩
        exact decided
      · rintro ⟨place, fault, first⟩
        rcases decided with ⟨reportedPlace, reportedFault, reportedFirst⟩
        rcases Nat.lt_trichotomy place reportedPlace with before | same | after
        · exact absurd fault (reportedFirst place before error)
        · cases same
          rw [reportedFault.error_unique fault]
        · exact absurd reportedFault (first reportedPlace after reported)

/-- A descriptor compiles just when it has no fault. -/
theorem Decided.ok_iff {α : Type} {descriptor : Descriptor} {field : String} {index : Nat}
    {result : Except RuleError α} (decided : descriptor.Decided field index result) :
    (∃ value, result = .ok value) ↔
      ∀ place error, ¬descriptor.Fault field index place error := by
  cases result with
  | ok value => exact ⟨fun _ => decided, fun _ => ⟨value, rfl⟩⟩
  | error reported =>
      constructor
      · rintro ⟨value, compiled⟩
        cases compiled
      · intro faultless
        rcases decided with ⟨place, fault, _⟩
        exact absurd fault (faultless place reported)

/-- Descriptors that compile do not hide the first fault of one behind them. -/
theorem decided_compile? {descriptor : Descriptor} {field : String}
    (named : descriptor.field = some field) {earlier : List Descriptor} {predicate : Predicate}
    (compiled : Predicate.compile? earlier = .ok predicate) :
    descriptor.Decided field earlier.length (Predicate.compile? (earlier ++ [descriptor])) := by
  rcases Predicate.compile?_eq_ok compiled with ⟨left, lowered, _⟩
  have decided : descriptor.Decided field earlier.length (descriptor.conditions earlier.length) :=
    decided_conditions named
  rw [Predicate.compile?, allConditions_append, lowered, Nat.zero_add]
  simp only [allConditions, bind, Except.bind]
  cases result : descriptor.conditions earlier.length with
  | error error =>
      rw [result] at decided
      exact decided
  | ok right =>
      rw [result] at decided
      exact decided

theorem decided_compile?_singleton {descriptor : Descriptor} {field : String}
    (named : descriptor.field = some field) :
    descriptor.Decided field 0 (Predicate.compile? [descriptor]) := by
  have noneEarlier : Predicate.compile? [] = .ok Predicate.allowAll := rfl
  exact decided_compile? named noneEarlier

/-- Any fault keeps the descriptor from compiling, also one that is not the first. -/
theorem Fault.compile?_eq_error {descriptor : Descriptor} {field : String} {place : Nat}
    {error : RuleError} (fault : descriptor.Fault field 0 place error)
    (named : descriptor.field = some field) :
    ∃ reported, Predicate.compile? [descriptor] = .error reported := by
  cases compiled : Predicate.compile? [descriptor] with
  | error reported => exact ⟨reported, rfl⟩
  | ok predicate =>
      have faultless := (decided_compile?_singleton named).ok_iff.mp ⟨predicate, compiled⟩
      exact absurd fault (faultless place error)

theorem compile?_of_emptiness {descriptor : Descriptor} {field : String} {operator : Operator}
    (named : descriptor.field = some field) (namesWell : descriptor.NamesWell field operator)
    (custom : ∀ timeField : TimeField, field ≠ timeField.name)
    (emptiness : operator = .isEmpty ∨ operator = .isNotEmpty) :
    ∃ predicate, Predicate.compile? [descriptor] = .ok predicate := by
  apply (decided_compile?_singleton named).ok_iff.mpr
  intro place error fault
  cases namesWell.mismatch fault <;> grind

/-- Compiling a descriptor that names a field reports the first fault listed for it. -/
structure ReportsFirstFault (descriptor : Descriptor) (field : String) : Prop where
  fails_iff : ∀ error, Predicate.compile? [descriptor] = .error error ↔
    descriptor.FirstFault field 0 error
  compiles_iff : (∃ predicate, Predicate.compile? [descriptor] = .ok predicate) ↔
    ∀ place error, ¬descriptor.Fault field 0 place error
  /-- Behind descriptors that compile, it is reported with its position in the rule. -/
  fails_behind_iff : ∀ earlier predicate, Predicate.compile? earlier = .ok predicate →
    ∀ error, Predicate.compile? (earlier ++ [descriptor]) = .error error ↔
      descriptor.FirstFault field earlier.length error
  /-- A check for emptiness of a custom field takes any value or none. -/
  emptiness : ∀ operator : Operator, operator = .isEmpty ∨ operator = .isNotEmpty →
    descriptor.NamesWell field operator → (∀ timeField : TimeField, field ≠ timeField.name) →
      ∀ value, ∃ predicate,
        Predicate.compile? [{ descriptor with value := value }] = .ok predicate

/-- A descriptor that names a field fails to compile exactly if it has a listed fault, and then
with the error of the first. -/
theorem reports_first_fault {descriptor : Descriptor} {field : String}
    (named : descriptor.field = some field) : descriptor.ReportsFirstFault field := by
  have decided := decided_compile?_singleton named
  constructor
  case fails_iff => exact decided.error_iff
  case compiles_iff => exact decided.ok_iff
  case fails_behind_iff =>
    intro earlier predicate compiled
    exact (decided_compile? named compiled).error_iff
  case emptiness =>
    intro operator emptiness namesWell custom value
    have sameNames : { descriptor with value := value }.NamesWell field operator :=
      ⟨namesWell.role, namesWell.field, namesWell.spelled⟩
    exact compile?_of_emptiness named sameNames custom emptiness

/-- Of a check for emptiness that names a reserved field and gives no value, the operator is
reported. -/
theorem reports_first_fault_ageDays_isEmpty :
    (ofCheck "age_days" " Is_Empty").field = some "age_days" ∧
      Predicate.compile? [ofCheck "age_days" " Is_Empty"] =
        .error (.invalidTimeComparison 0 "age_days" "is_empty") ∧
      (ofCheck "age_days" " Is_Empty").ReportsFirstFault "age_days" :=
  ⟨rfl, rfl, reports_first_fault rfl⟩

end Descriptor

end WorkflowGuard
