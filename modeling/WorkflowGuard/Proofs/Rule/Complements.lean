import WorkflowGuard.Proofs.Rule.Faults

/-!
# Operators that exclude each other

Equality and inequality divide the tickets among them, and so do the two checks for emptiness:
of two descriptors that differ in such an operator alone, exactly one holds for every ticket,
however malformed its payload is.

Each sort of condition has its own way of saying no. A number is compared by another
comparison, a truth value and a text carry a flag, and a check for blankness expects the other
answer. So the two descriptors are followed through the compiler side by side, down to a pair of
conditions of one sort, for which the matter is plain, or to a pair of faults.
-/

namespace WorkflowGuard

namespace Operator

/-- What one operator asks for, the other excludes. -/
inductive Opposite : Operator → Operator → Prop where
  | equality : Opposite (.compare .eq) (.compare .ne)
  | emptiness : Opposite .isEmpty .isNotEmpty

end Operator

namespace Condition

/-- In every case one of the two conditions holds and the other does not. -/
def Complements (left right : Condition) : Prop :=
  ∀ fields ticket principal now,
    left.holds fields ticket principal now = !right.holds fields ticket principal now

/-- Doubles are equal or unequal, and never both; this holds for those that are no numbers too. -/
theorem complements_time (field : TimeField) (value : Float) :
    (time field .eq value).Complements (time field .ne value) := by
  intro fields ticket principal now
  simp [holds, Comparison.holds, bne]

theorem complements_number (key : String) (value : Float) :
    (number key .eq value).Complements (number key .ne value) := by
  intro fields ticket principal now
  simp [holds, Comparison.holds, bne]

theorem complements_truth (key : String) (expected : Bool) :
    (truth key expected false).Complements (truth key expected true) := by
  intro fields ticket principal now
  simp [holds]

theorem complements_text (key expected : String) :
    (text key expected false).Complements (text key expected true) := by
  intro fields ticket principal now
  simp [holds]

theorem complements_blank (key : String) :
    (blank key true).Complements (blank key false) := by
  intro fields ticket principal now
  simp [holds]

end Condition

namespace Descriptor

/-- Complementary conditions, or two faults. -/
inductive Opposed : Except RuleError Condition → Except RuleError Condition → Prop where
  | compiled {left right : Condition} (complements : left.Complements right) :
      Opposed (.ok left) (.ok right)
  | refused {left right : RuleError} : Opposed (.error left) (.error right)

section

variable {index : Nat} {operator opposite : Operator} {value : Option Literal}

theorem opposed_timeCondition {field : TimeField} (opposites : operator.Opposite opposite) :
    Opposed (timeCondition index field operator value)
      (timeCondition index field opposite value) := by
  simp only [timeCondition]
  cases opposites with
  | emptiness => exact .refused
  | equality =>
      cases value with
      | none => exact .refused
      | some literal =>
          cases reading : literal.number? with
          | none =>
              simp only [Operator.comparison?, reading]
              exact .refused
          | some number =>
              simp only [Operator.comparison?, reading]
              exact .compiled (Condition.complements_time field number)

/-- Which reading the value has does not depend on the operator. -/
theorem opposed_valueCondition {key : String} {literal : Literal} :
    Opposed (valueCondition index key .eq literal) (valueCondition index key .ne literal) := by
  simp only [valueCondition]
  cases literal.number? with
  | some number => exact .compiled (Condition.complements_number key number)
  | none =>
      cases literal.truth? with
      | some expected => exact .compiled (Condition.complements_truth key expected)
      | none =>
          cases literal.text? with
          | some expected => exact .compiled (Condition.complements_text key expected)
          | none => exact .refused

theorem opposed_customCondition {key : String} (opposites : operator.Opposite opposite) :
    Opposed (customCondition index key operator value)
      (customCondition index key opposite value) := by
  cases opposites with
  | emptiness => exact .compiled (Condition.complements_blank key)
  | equality =>
      cases value with
      | none => exact .refused
      | some literal => exact opposed_valueCondition

/-- Opposite operators on one field compile to complementary conditions, or neither compiles. -/
theorem opposed_fieldCondition {field : String} (opposites : operator.Opposite opposite) :
    Opposed (fieldCondition index field operator value)
      (fieldCondition index field opposite value) := by
  simp only [fieldCondition]
  cases TimeField.ofName? field with
  | some timeField => exact opposed_timeCondition opposites
  | none => exact opposed_customCondition opposites

end

/-- The descriptor asks a field for an operator and a value and nothing else. The operator may
be spelled in any way, and equality may be left out. -/
structure Asks (descriptor : Descriptor) (field : String) (operator : Operator)
    (value : Option Literal) : Prop where
  role : descriptor.role = none
  field : descriptor.field = some field
  spelled : descriptor.Spells operator
  value : descriptor.value = value

section

variable {descriptor left right : Descriptor} {field : String} {operator opposite : Operator}
  {value : Option Literal}

theorem asks_spelling (field : String) (operator : Operator) (value : Option Literal) :
    Asks { field := some field, operator := some operator.spelling, value := value } field
      operator value where
  role := rfl
  field := rfl
  spelled := spells_iff.mpr (Operator.read?_spelling operator)
  value := rfl

theorem Asks.compile?_of_blank (asks : descriptor.Asks field operator value)
    (blank : Text.Blank field) :
    Predicate.compile? [descriptor] = .error (.blankName 0 "field") := by
  simp only [Predicate.compile?, allConditions, conditions, fieldConditions, asks.role,
    asks.field, Text.isBlank_iff.mpr blank]
  rfl

theorem Spells.operator?_eq {index : Nat} (spelled : descriptor.Spells operator) :
    operator? index descriptor.operator = .ok operator := by
  rw [Spells] at spelled
  cases written : descriptor.operator with
  | none =>
      rw [written] at spelled
      rw [spelled]
      rfl
  | some text =>
      rw [written] at spelled
      simp only [operator?, Operator.read?_eq_some_iff.mpr spelled]

/-- A rule of one descriptor on a field has that one condition. -/
theorem Asks.compile?_eq (asks : descriptor.Asks field operator value)
    (named : ¬Text.Blank field) :
    Predicate.compile? [descriptor] =
      (fieldCondition 0 field operator value).map fun condition => .all [condition] := by
  simp only [Predicate.compile?, allConditions, conditions, roleConditions, fieldConditions,
    asks.role, asks.field, asks.value, asks.spelled.operator?_eq, Option.isNone_some,
    Bool.and_false, Bool.false_eq_true, if_false, if_neg (mt Text.isBlank_iff.mp named), bind,
    Except.bind]
  cases fieldCondition 0 field operator value <;> rfl

/-- Of two rules both compile or neither does, and if they do, exactly one holds in every
case. -/
structure ComplementaryRules (left right : List Descriptor) : Prop where
  compiles_iff : (∃ predicate, Predicate.compile? left = .ok predicate) ↔
    ∃ predicate, Predicate.compile? right = .ok predicate
  exactly_one : ∀ leftPredicate rightPredicate, Predicate.compile? left = .ok leftPredicate →
    Predicate.compile? right = .ok rightPredicate → ∀ ticket principal now,
      leftPredicate.holds ticket principal now = !rightPredicate.holds ticket principal now

/-- Of two rules that ask for opposite things, one holds and the other does not. -/
theorem Asks.complementary (asksLeft : left.Asks field operator value)
    (opposites : operator.Opposite opposite) (asksRight : right.Asks field opposite value) :
    ComplementaryRules [left] [right] := by
  rcases Classical.em (Text.Blank field) with blank | named
  · have failsLeft := asksLeft.compile?_of_blank blank
    have failsRight := asksRight.compile?_of_blank blank
    constructor
    case compiles_iff => simp [failsLeft, failsRight]
    case exactly_one => simp [failsLeft]
  · have opposed : Opposed (fieldCondition 0 field operator value)
        (fieldCondition 0 field opposite value) := opposed_fieldCondition opposites
    have ofLeft := asksLeft.compile?_eq named
    have ofRight := asksRight.compile?_eq named
    generalize fieldCondition 0 field operator value = leftResult at opposed ofLeft
    generalize fieldCondition 0 field opposite value = rightResult at opposed ofRight
    cases opposed with
    | refused =>
        constructor
        case compiles_iff => simp [ofLeft, ofRight, Except.map]
        case exactly_one => simp [ofLeft, Except.map]
    | compiled complements =>
        constructor
        case compiles_iff => exact ⟨fun _ => ⟨_, ofRight⟩, fun _ => ⟨_, ofLeft⟩⟩
        case exactly_one =>
          intro leftPredicate rightPredicate compiledLeft compiledRight ticket principal now
          cases ofLeft.symm.trans compiledLeft
          cases ofRight.symm.trans compiledRight
          simpa [Predicate.holds] using complements _ ticket principal now

theorem Asks.compiles_of_emptiness (asks : descriptor.Asks field operator value)
    (emptiness : operator = .isEmpty ∨ operator = .isNotEmpty) (named : ¬Text.Blank field)
    (custom : ∀ timeField : TimeField, field ≠ timeField.name) :
    ∃ predicate, Predicate.compile? [descriptor] = .ok predicate := by
  have namesWell : descriptor.NamesWell field operator := by
    refine ⟨?_, named, asks.spelled⟩
    intro role given
    rw [asks.role] at given
    cases given
  exact compile?_of_emptiness asks.field namesWell custom emptiness

theorem Asks.fails_of_emptiness {timeField : TimeField}
    (asks : descriptor.Asks timeField.name operator value)
    (emptiness : operator = .isEmpty ∨ operator = .isNotEmpty) :
    ∃ error, Predicate.compile? [descriptor] = .error error := by
  have fault : descriptor.Fault timeField.name 0 3 _ := .timeEmptiness rfl asks.spelled emptiness
  exact fault.compile?_eq_error asks.field

end

/-- The operators that exclude each other divide all tickets among them. -/
structure OppositesDivide (field : String) (value : Option Literal) : Prop where
  /-- Every operator can be asked for, if only by its own spelling. -/
  asked : ∀ operator : Operator, ∃ descriptor : Descriptor, descriptor.Asks field operator value
  equality : ∀ left right : Descriptor, left.Asks field (.compare .eq) value →
    right.Asks field (.compare .ne) value → ComplementaryRules [left] [right]
  emptiness : ∀ left right : Descriptor, left.Asks field .isEmpty value →
    right.Asks field .isNotEmpty value → ComplementaryRules [left] [right]
  /-- The checks for emptiness compile for every custom field. -/
  custom : ¬Text.Blank field → (∀ timeField : TimeField, field ≠ timeField.name) →
    ∀ operator : Operator, operator = .isEmpty ∨ operator = .isNotEmpty →
      ∀ descriptor : Descriptor, descriptor.Asks field operator value →
        ∃ predicate, Predicate.compile? [descriptor] = .ok predicate
  /-- They compile for no field computed from time. -/
  reserved : ∀ timeField : TimeField, field = timeField.name →
    ∀ operator : Operator, operator = .isEmpty ∨ operator = .isNotEmpty →
      ∀ descriptor : Descriptor, descriptor.Asks field operator value →
        ∃ error, Predicate.compile? [descriptor] = .error error

/-- Opposite operators on a field are exact complements, whatever the field, the value and the
ticket. -/
theorem opposites_divide (field : String) (value : Option Literal) :
    OppositesDivide field value := by
  constructor
  case asked =>
    intro operator
    exact ⟨_, asks_spelling field operator value⟩
  case equality =>
    intro left right asksLeft asksRight
    exact asksLeft.complementary .equality asksRight
  case emptiness =>
    intro left right asksLeft asksRight
    exact asksLeft.complementary .emptiness asksRight
  case custom =>
    intro named custom operator emptiness descriptor asks
    exact asks.compiles_of_emptiness emptiness named custom
  case reserved =>
    rintro timeField rfl operator emptiness descriptor asks
    exact asks.fails_of_emptiness emptiness

end Descriptor

end WorkflowGuard
