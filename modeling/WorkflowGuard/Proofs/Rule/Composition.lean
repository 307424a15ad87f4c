import WorkflowGuard.Proofs.Rule.Inversion

/-!
# Rules as flat conjunctions

A rule may be cut anywhere, and its parts compiled on their own. The whole then compiles exactly
when both parts do, it holds where both parts hold, and of the faults of the parts the first is
the fault of the whole. So what decides is only which descriptors a rule has, and a further
descriptor, whether it is well formed or not, never grants anything.

The compiler carries the position of a descriptor along, but only to report it. Compiling from
another position therefore moves the faults and changes nothing else. A part that does not
compile denies everything, like the whole, which is why the conjunction needs no exception for
faulty parts; and the part without descriptors allows everything.
-/

namespace WorkflowGuard

variable {α β : Type}

namespace RuleError

theorem mapError_bind (change : RuleError → RuleError) (first : Except RuleError α)
    (next : α → Except RuleError β) :
    (first >>= next).mapError change =
      first.mapError change >>= fun value => (next value).mapError change := by
  cases first with
  | ok value => rfl
  | error error => rfl

end RuleError

namespace Descriptor

open RuleError (shift)

variable (index distance : Nat)

theorem operator?_add (text : Option String) :
    operator? (index + distance) text = (operator? index text).mapError (shift distance) := by
  cases text with
  | none => rfl
  | some text =>
      simp only [operator?]
      cases Operator.read? text <;> rfl

theorem timeCondition_add (field : TimeField) (operator : Operator) (value : Option Literal) :
    timeCondition (index + distance) field operator value =
      (timeCondition index field operator value).mapError (shift distance) := by
  simp only [timeCondition]
  cases operator.comparison? with
  | none => rfl
  | some comparison =>
      cases value with
      | none => rfl
      | some literal =>
          dsimp only
          cases literal.number? <;> rfl

theorem valueCondition_add (key : String) (comparison : Comparison) (literal : Literal) :
    valueCondition (index + distance) key comparison literal =
      (valueCondition index key comparison literal).mapError (shift distance) := by
  simp only [valueCondition]
  cases literal.number? with
  | some number => rfl
  | none =>
      cases literal.truth? with
      | some expected => cases comparison <;> rfl
      | none =>
          cases literal.text? with
          | some expected => cases comparison <;> rfl
          | none => rfl

/-- Of the position only the report of a fault depends. -/
theorem fieldCondition_add (field : String) (operator : Operator) (value : Option Literal) :
    fieldCondition (index + distance) field operator value =
      (fieldCondition index field operator value).mapError (shift distance) := by
  simp only [fieldCondition]
  cases TimeField.ofName? field with
  | some timeField => exact timeCondition_add index distance timeField operator value
  | none =>
      cases operator with
      | isEmpty => rfl
      | isNotEmpty => rfl
      | compare comparison =>
          cases value with
          | none => rfl
          | some literal => exact valueCondition_add index distance field comparison literal

theorem roleConditions_add (role : Option String) :
    roleConditions (index + distance) role =
      (roleConditions index role).mapError (shift distance) := by
  cases role with
  | none => rfl
  | some role =>
      simp only [roleConditions]
      split <;> rfl

theorem fieldConditions_add (descriptor : Descriptor) :
    fieldConditions (index + distance) descriptor =
      (fieldConditions index descriptor).mapError (shift distance) := by
  simp only [fieldConditions]
  cases descriptor.field with
  | none => rfl
  | some field =>
      dsimp only
      split
      · rfl
      · simp only [operator?_add, fieldCondition_add, RuleError.mapError_bind]
        rfl

/-- At another position a descriptor compiles to the same conditions, or has the same fault
there. -/
theorem conditions_add (descriptor : Descriptor) :
    descriptor.conditions (index + distance) =
      (descriptor.conditions index).mapError (shift distance) := by
  simp only [conditions]
  split
  · rfl
  · simp only [roleConditions_add, fieldConditions_add, RuleError.mapError_bind]
    rfl

/-- A list of descriptors may be compiled as if it stood further back. -/
theorem allConditions_add (descriptors : List Descriptor) :
    allConditions (index + distance) descriptors =
      (allConditions index descriptors).mapError (shift distance) := by
  induction descriptors generalizing index with
  | nil => rfl
  | cons descriptor rest ih =>
      simp only [allConditions, conditions_add, Nat.add_right_comm index distance 1, ih,
        RuleError.mapError_bind]
      rfl

/-- Compiling a list is compiling its front, and then its back from where the front ends. -/
theorem allConditions_append (first second : List Descriptor) :
    allConditions index (first ++ second) = do
      let left ← allConditions index first
      let right ← allConditions (index + first.length) second
      return left ++ right := by
  induction first generalizing index with
  | nil =>
      rw [List.nil_append, allConditions, List.length_nil, Nat.add_zero]
      cases allConditions index second <;> rfl
  | cons descriptor rest ih =>
      rw [List.cons_append, allConditions, allConditions, ih, List.length_cons,
        Nat.add_right_comm index 1, Nat.add_assoc index]
      cases descriptor.conditions index with
      | error error => rfl
      | ok head =>
          cases allConditions (index + 1) rest with
          | error error => rfl
          | ok others =>
              cases allConditions (index + (rest.length + 1)) second with
              | error error => rfl
              | ok right => exact congrArg Except.ok (List.append_assoc head others right).symm

end Descriptor

namespace Predicate

/-- The conditions of a conjunction are the conditions it was made from, even if there are none. -/
theorem conditions_ofConditions (conditions : List Condition) :
    (ofConditions conditions).conditions = conditions := by
  cases conditions <;> rfl

/-- A rule cut in two compiles part by part. The faults of the second part lie behind the whole
first part. -/
theorem compile?_append (first second : List Descriptor) :
    compile? (first ++ second) = do
      let left ← compile? first
      let right ← (compile? second).mapError (.shift first.length)
      return ofConditions (left.conditions ++ right.conditions) := by
  rw [compile?, compile?, compile?, Descriptor.allConditions_append,
    Descriptor.allConditions_add 0 first.length]
  cases Descriptor.allConditions 0 first with
  | error error => rfl
  | ok left =>
      cases Descriptor.allConditions 0 second with
      | error error => rfl
      | ok right =>
          change Except.ok (ofConditions (left ++ right)) = Except.ok (ofConditions
            ((ofConditions left).conditions ++ (ofConditions right).conditions))
          rw [conditions_ofConditions, conditions_ofConditions]

variable (ticket : Ticket) (principal : Principal) (now : Instant)

theorem holds_compile_of_error {descriptors : List Descriptor} {error : RuleError}
    (faulty : compile? descriptors = .error error) :
    (compile descriptors).holds ticket principal now = false := by
  rw [compile, faulty]
  rfl

theorem holds_compile_of_ok {descriptors : List Descriptor} {predicate : Predicate}
    (compiled : compile? descriptors = .ok predicate) :
    (compile descriptors).holds ticket principal now =
      predicate.conditions.all (·.holds (.ofPayload ticket.payload) ticket principal now) := by
  rcases compile?_eq_ok compiled with ⟨conditions, _, rfl⟩
  rw [compile, compiled, conditions_ofConditions, ← holds_ofConditions]

/-- The whole holds where both parts hold; a part with a fault holds nowhere, like the whole. -/
theorem holds_compile_append (first second : List Descriptor) :
    (compile (first ++ second)).holds ticket principal now =
      ((compile first).holds ticket principal now &&
        (compile second).holds ticket principal now) := by
  have whole := compile?_append first second
  cases left : compile? first with
  | error error =>
      rw [left] at whole
      rw [holds_compile_of_error ticket principal now whole,
        holds_compile_of_error ticket principal now left, Bool.false_and]
  | ok leftPredicate =>
      cases right : compile? second with
      | error error =>
          rw [left, right] at whole
          rw [holds_compile_of_error ticket principal now whole,
            holds_compile_of_error ticket principal now right, Bool.and_false]
      | ok rightPredicate =>
          rw [left, right] at whole
          rw [holds_compile_of_ok ticket principal now whole,
            holds_compile_of_ok ticket principal now left,
            holds_compile_of_ok ticket principal now right, conditions_ofConditions,
            List.all_append]

/-- Each descriptor of a rule decides on its own. -/
theorem holds_compile_eq_all (descriptors : List Descriptor) :
    (compile descriptors).holds ticket principal now =
      descriptors.all fun descriptor => (compile [descriptor]).holds ticket principal now := by
  induction descriptors with
  | nil => rfl
  | cons descriptor rest ih =>
      rw [← List.singleton_append, holds_compile_append, ih, List.all_append, List.all_cons,
        List.all_nil, Bool.and_true]

/-- A rule that asks for less grants wherever one that asks for more does. -/
theorem holds_compile_of_subset {fewer more : List Descriptor} (subset : fewer ⊆ more)
    (holds : (compile more).holds ticket principal now = true) :
    (compile fewer).holds ticket principal now = true := by
  rw [holds_compile_eq_all, List.all_eq_true] at holds ⊢
  intro descriptor member
  exact holds descriptor (subset member)

/-- A rule in two parts is the conjunction of its parts. -/
structure Conjoins (first second : List Descriptor) : Prop where
  holds : ∀ ticket principal now,
    (compile (first ++ second)).holds ticket principal now =
      ((compile first).holds ticket principal now &&
        (compile second).holds ticket principal now)
  compiles_iff : (∃ whole, compile? (first ++ second) = .ok whole) ↔
    (∃ left, compile? first = .ok left) ∧ ∃ right, compile? second = .ok right
  conditions : ∀ whole left right, compile? (first ++ second) = .ok whole →
    compile? first = .ok left → compile? second = .ok right →
      whole.conditions = left.conditions ++ right.conditions
  faultOfFirst : ∀ error, compile? first = .error error →
    compile? (first ++ second) = .error error
  /-- Positions in the second part are counted on from the first. -/
  faultOfSecond : ∀ left error, compile? first = .ok left → compile? second = .error error →
    compile? (first ++ second) = .error (error.shift first.length)

theorem conjoins (first second : List Descriptor) : Conjoins first second := by
  have whole := compile?_append first second
  constructor
  case holds =>
    intro ticket principal now
    exact holds_compile_append ticket principal now first second
  case compiles_iff =>
    rw [whole]
    cases compile? first with
    | error error => simp [bind, Except.bind]
    | ok left =>
        cases compile? second with
        | error error =>
            constructor
            · rintro ⟨result, compiled⟩
              cases compiled
            · rintro ⟨_, right, compiled⟩
              cases compiled
        | ok right => exact ⟨fun _ => ⟨⟨left, rfl⟩, right, rfl⟩, fun _ => ⟨_, rfl⟩⟩
  case conditions =>
    intro result left right compiled compiledFirst compiledSecond
    rw [whole, compiledFirst, compiledSecond] at compiled
    rw [← Except.ok.inj compiled, conditions_ofConditions]
  case faultOfFirst =>
    intro error faulty
    rw [whole, faulty]
    rfl
  case faultOfSecond =>
    intro left error compiledFirst faulty
    rw [whole, compiledFirst, faulty]
    rfl

/-- Only which descriptors a rule has decides, and more of them grant no more. -/
structure DecidedByMembers (descriptors : List Descriptor) : Prop where
  /-- Reordering or repeating descriptors changes no decision. -/
  sameMembers : ∀ others, (∀ descriptor, descriptor ∈ others ↔ descriptor ∈ descriptors) →
    ∀ ticket principal now,
      (compile others).holds ticket principal now =
        (compile descriptors).holds ticket principal now
  /-- What a rule with more descriptors grants, the rule grants too. -/
  grantsNoMore : ∀ others, descriptors ⊆ others → ∀ ticket principal now,
    (compile others).holds ticket principal now = true →
      (compile descriptors).holds ticket principal now = true

theorem decidedByMembers (descriptors : List Descriptor) : DecidedByMembers descriptors := by
  constructor
  case sameMembers =>
    intro others same ticket principal now
    rw [Bool.eq_iff_iff]
    constructor
    · exact holds_compile_of_subset ticket principal now fun _ => (same _).mpr
    · exact holds_compile_of_subset ticket principal now fun _ => (same _).mp
  case grantsNoMore =>
    intro others subset ticket principal now
    exact holds_compile_of_subset ticket principal now subset

/-- What one more descriptor asks for. -/
structure AsksFurther (descriptors : List Descriptor) : Prop where
  /-- The rule without descriptors asks for nothing. -/
  unrestricted : ∀ ticket principal now, (compile []).holds ticket principal now = true
  /-- A further role is asked for beside all that was asked for before. -/
  role : ∀ name, ¬Text.Blank name → ∀ ticket principal now,
    (compile (descriptors ++ [.ofRole name])).holds ticket principal now =
      ((compile descriptors).holds ticket principal now && principal.holds name)
  /-- A descriptor without role and field is refused at its position, unless another one was
  refused before. -/
  refused : ∀ predicate, compile? descriptors = .ok predicate →
    compile? (descriptors ++ [({} : Descriptor)]) = .error (.emptyCondition descriptors.length)

theorem compile?_ofRole {name : String} (named : ¬Text.Blank name) :
    compile? [.ofRole name] = .ok (.all [.hasRole name]) := by
  have notBlank : Text.isBlank name = false := by
    rw [← Bool.not_eq_true, Text.isBlank_iff]
    exact named
  simp only [compile?, Descriptor.allConditions, Descriptor.conditions, Descriptor.ofRole,
    Descriptor.roleConditions, notBlank]
  rfl

theorem asksFurther (descriptors : List Descriptor) : AsksFurther descriptors := by
  have whole := conjoins descriptors
  constructor
  case unrestricted =>
    intro ticket principal now
    rfl
  case role =>
    intro name named ticket principal now
    have alone : (compile [.ofRole name]).holds ticket principal now = principal.holds name := by
      rw [holds_compile_of_ok ticket principal now (compile?_ofRole named)]
      exact Bool.and_true _
    rw [(whole _).holds, alone]
  case refused =>
    intro predicate compiled
    have fault :=
      (whole [({} : Descriptor)]).faultOfSecond predicate (.emptyCondition 0) compiled rfl
    rw [fault, RuleError.shift, Nat.zero_add]

/-- Rules compose as flat conjunctions, their faults included. -/
theorem compile_conjoins_parts (first second : List Descriptor) :
    Conjoins first second ∧ DecidedByMembers first ∧ AsksFurther first :=
  ⟨conjoins first second, decidedByMembers first, asksFurther first⟩

end Predicate

end WorkflowGuard
