import Mathlib
import WorkflowGuard.Proofs.Rule.Faults

/-!
# The form of compiled rules

A compiled rule is executed without further checks: a constant is compared as it stands, a key is
looked up as it stands, and a conjunction without members would be true. This file states what
the compiler leaves behind for that: it keeps the order of the descriptors, with the role of each
before its field, no rule but the empty one allows everything, and each condition is well formed
on its own.

Most of this is read off the compiler branch by branch and carried along the descriptors. The
texts that a field is compared with need an argument. A text of the author is compared as a text
because it has no other reading, but a number that is not finite is compared as a text too, by the
word that is written for it. There are three such words, and they spell neither a number nor a
truth value.
-/

namespace WorkflowGuard

namespace Decimal

open Float.Model (Format UnpackedFloat)

theorem toNat_unpackExponent (bits : UInt64) :
    (@UnpackedFloat.unpackExponent Format.binary64 bits.toBitVec).toNat =
      bits.toNat / 2 ^ 52 % 2 ^ 11 := by
  simp only [UnpackedFloat.unpackExponent, BitVec.toNat_cast, BitVec.extractLsb_toNat,
    Nat.shiftRight_eq_div_pow]
  rfl

/-- Only the greatest exponent field is kept for what is not finite. -/
theorem isFinite_of_exponent {number : Float}
    (small : number.toBits.toNat / 2 ^ 52 % 2 ^ 11 ≠ 2047) : number.isFinite = true := by
  have notAllOnes :
      @UnpackedFloat.unpackExponent Format.binary64 number.toBits.toBitVec ≠ -1#_ := by
    intro allOnes
    have exponent := congrArg BitVec.toNat allOnes
    rw [toNat_unpackExponent] at exponent
    exact small exponent
  -- Unpacking asks for this exponent first; all its other answers are finite.
  change (UnpackedFloat.unpack Format.binary64 number.toBits.toBitVec).isFinite = true
  rw [UnpackedFloat.unpack, if_neg notAllOnes]
  split
  · split <;> rfl
  · rfl

/-- A double that is not finite is no number or one of the infinities. -/
theorem decode_of_not_isFinite {number : Float} (infinite : number.isFinite = false) :
    decode number = .nan ∨ ∃ negative, decode number = .infinite negative := by
  have exponent : number.toBits.toNat / 2 ^ 52 % 2 ^ 11 = 2047 := by
    apply Classical.byContradiction
    intro small
    rw [isFinite_of_exponent small] at infinite
    cases infinite
  simp only [decode, Nat.pow_eq, if_pos exponent]
  split
  · exact .inr ⟨_, rfl⟩
  · exact .inl rfl

theorem write_of_not_isFinite (layout : Layout) {number : Float}
    (infinite : number.isFinite = false) : layout.write number ∈ ["NaN", "inf", "-inf"] := by
  rcases decode_of_not_isFinite infinite with decoded | ⟨negative, decoded⟩
  · simp [Layout.write, decoded]
  · cases negative <;> simp [Layout.write, decoded]

end Decimal

namespace Literal

/-- A literal that reads as a number reads as a finite one. -/
theorem isFinite_of_number? {literal : Literal} {number : Float}
    (reading : literal.number? = some number) : number.isFinite = true := by
  cases literal with
  | bool value => cases reading
  | structured value => cases reading
  | text value =>
      rw [number?, Option.filter_eq_some_iff] at reading
      exact reading.2
  | number value =>
      rw [number?] at reading
      split at reading
      · rename_i finite
        rwa [← Option.some.inj reading]
      · cases reading

/-- The text has no reading but the one as a text. -/
structure OnlyText (expected : String) : Prop where
  noNumber : (text expected).number? = none
  noTruth : (text expected).truth? = none

/-- The words for doubles that are not finite have no reading but as texts. -/
theorem onlyText_of_word {expected : String} (word : expected ∈ ["NaN", "inf", "-inf"]) :
    OnlyText expected := by
  simp only [List.mem_cons, List.not_mem_nil, or_false] at word
  rcases word with rfl | rfl | rfl
  all_goals constructor <;> decide +kernel

/-- A literal that is compared as a text has no other reading, and its text has none either. -/
theorem onlyText_of_text? {literal : Literal} {expected : String}
    (noNumber : literal.number? = none) (noTruth : literal.truth? = none)
    (text : literal.text? = some expected) : OnlyText expected := by
  cases literal with
  | bool value => cases noTruth
  | structured value => cases text
  | text value =>
      cases text
      exact ⟨noNumber, noTruth⟩
  | number value =>
      -- A finite number would have been compared as a number.
      have infinite : value.isFinite = false := by
        simpa [number?] using noNumber
      rw [← Option.some.inj text]
      exact onlyText_of_word (Decimal.write_of_not_isFinite Decimal.plain infinite)

end Literal

/-- What a condition is about: a role, or a field of either sort. -/
inductive Subject where
  | role (name : String)
  | field (name : String)
  deriving DecidableEq, Repr

/-- The subjects of a descriptor: its role, then its field. -/
def Descriptor.subjects (descriptor : Descriptor) : List Subject :=
  (descriptor.role.map Subject.role).toList ++ (descriptor.field.map Subject.field).toList

namespace Condition

def subject : Condition → Subject
  | hasRole role => .role role
  | time field _ _ => .field field.name
  | number key _ _ | truth key _ _ | text key _ _ | blank key _ => .field key

/-- A key that is looked up in the payload: it is not blank, and no field computed from time hides
it. -/
structure CustomKey (key : String) : Prop where
  named : ¬Text.Blank key
  unreserved : ∀ timeField : TimeField, key ≠ timeField.name

/-- The operands of the condition can be taken as they stand. -/
inductive WellFormed : Condition → Prop where
  | hasRole {role : String} (named : ¬Text.Blank role) : WellFormed (.hasRole role)
  | time {field : TimeField} {comparison : Comparison} {value : Float}
      (finite : value.isFinite = true) : WellFormed (.time field comparison value)
  | number {key : String} {comparison : Comparison} {value : Float} (custom : CustomKey key)
      (finite : value.isFinite = true) : WellFormed (.number key comparison value)
  | truth {key : String} {expected negate : Bool} (custom : CustomKey key) :
      WellFormed (.truth key expected negate)
  | text {key expected : String} {negate : Bool} (custom : CustomKey key)
      (only : Literal.OnlyText expected) : WellFormed (.text key expected negate)
  | blank {key : String} {expectBlank : Bool} (custom : CustomKey key) :
      WellFormed (.blank key expectBlank)

/-- The conditions are about the subjects one by one, and each is well formed. -/
structure Cover (conditions : List Condition) (subjects : List Subject) : Prop where
  inOrder : conditions.map subject = subjects
  wellFormed : ∀ condition ∈ conditions, condition.WellFormed

namespace Cover

theorem nil : Cover [] [] :=
  ⟨rfl, List.forall_mem_nil _⟩

theorem singleton {condition : Condition} (wellFormed : condition.WellFormed) :
    Cover [condition] [condition.subject] :=
  ⟨rfl, List.forall_mem_singleton.mpr wellFormed⟩

theorem append {front back : List Condition} {frontSubjects backSubjects : List Subject}
    (frontCover : Cover front frontSubjects) (backCover : Cover back backSubjects) :
    Cover (front ++ back) (frontSubjects ++ backSubjects) where
  inOrder := by rw [List.map_append, frontCover.inOrder, backCover.inOrder]
  wellFormed := List.forall_mem_append.mpr ⟨frontCover.wellFormed, backCover.wellFormed⟩

end Cover

end Condition

namespace Descriptor

open Condition (Cover CustomKey)

variable {index : Nat}

theorem timeCondition_cover {field : TimeField} {operator : Operator} {value : Option Literal}
    {condition : Condition} (compiled : timeCondition index field operator value = .ok condition) :
    Cover [condition] [.field field.name] := by
  rcases timeCondition_eq_ok compiled with ⟨comparison, literal, number, rfl, rfl, reading, rfl⟩
  exact .singleton (.time (Literal.isFinite_of_number? reading))

/-- Whichever reading the value has, the condition is well formed and speaks of the key. -/
theorem valueCondition_cover {key : String} {comparison : Comparison} {literal : Literal}
    {condition : Condition} (custom : CustomKey key)
    (compiled : valueCondition index key comparison literal = .ok condition) :
    Cover [condition] [.field key] := by
  rcases valueCondition_eq_ok compiled with ⟨number, numeric, rfl⟩ |
    ⟨expected, notNumeric, truth, unordered, rfl⟩ |
    ⟨expected, notNumeric, notTruth, text, unordered, rfl⟩
  · exact .singleton (.number custom (Literal.isFinite_of_number? numeric))
  · exact .singleton (.truth custom)
  · exact .singleton (.text custom (Literal.onlyText_of_text? notNumeric notTruth text))

theorem customCondition_cover {key : String} {operator : Operator} {value : Option Literal}
    {condition : Condition} (custom : CustomKey key)
    (compiled : customCondition index key operator value = .ok condition) :
    Cover [condition] [.field key] := by
  cases operator with
  | isEmpty =>
      cases compiled
      exact .singleton (.blank custom)
  | isNotEmpty =>
      cases compiled
      exact .singleton (.blank custom)
  | compare comparison =>
      cases value with
      | none => cases compiled
      | some literal => exact valueCondition_cover custom compiled

/-- The name decides the sort of the condition, so that no payload is asked for a reserved name. -/
theorem fieldCondition_cover {field : String} {operator : Operator} {value : Option Literal}
    {condition : Condition} (named : ¬Text.Blank field)
    (compiled : fieldCondition index field operator value = .ok condition) :
    Cover [condition] [.field field] := by
  rw [fieldCondition] at compiled
  cases reserved : TimeField.ofName? field with
  | some timeField =>
      rw [reserved] at compiled
      rw [TimeField.ofName?_eq_some_iff.mp reserved]
      exact timeCondition_cover compiled
  | none =>
      rw [reserved] at compiled
      refine customCondition_cover ⟨named, fun timeField isName => ?_⟩ compiled
      rw [TimeField.ofName?_eq_some_iff.mpr isName] at reserved
      cases reserved

theorem roleConditions_cover {descriptor : Descriptor} {conditions : List Condition}
    (compiled : roleConditions index descriptor.role = .ok conditions) :
    Cover conditions (descriptor.role.map Subject.role).toList := by
  rcases descriptor.roleConditions_cases index with ⟨role, given, blank, failed⟩ | ⟨named, _⟩
  · rw [failed] at compiled
    cases compiled
  · rw [roleConditions_eq_ok compiled]
    cases given : descriptor.role with
    | none => exact .nil
    | some role => exact .singleton (.hasRole (named role given))

theorem fieldConditions_cover {descriptor : Descriptor} {conditions : List Condition}
    (compiled : fieldConditions index descriptor = .ok conditions) :
    Cover conditions (descriptor.field.map Subject.field).toList := by
  rcases fieldConditions_eq_ok compiled with ⟨unnamed, rfl⟩ |
    ⟨field, operator, condition, given, spelled, lowered, rfl⟩
  · rw [unnamed]
    exact .nil
  · have named : ¬Text.Blank field := by
      intro blank
      rw [fieldConditions, given] at compiled
      simp only [if_pos (Text.isBlank_iff.mpr blank)] at compiled
      cases compiled
    rw [given]
    exact fieldCondition_cover named lowered

theorem conditions_cover {descriptor : Descriptor} {conditions : List Condition}
    (compiled : descriptor.conditions index = .ok conditions) :
    Cover conditions descriptor.subjects := by
  rcases conditions_eq_ok compiled with ⟨ofRole, ofField, role, field, rfl⟩
  exact (roleConditions_cover role).append (fieldConditions_cover field)

/-- A rule compiles to well-formed conditions on its subjects, in order. -/
theorem allConditions_cover {descriptors : List Descriptor} {conditions : List Condition}
    (compiled : allConditions index descriptors = .ok conditions) :
    Cover conditions (descriptors.flatMap subjects) := by
  induction descriptors generalizing index conditions with
  | nil =>
      cases compiled
      exact .nil
  | cons descriptor rest ih =>
      rcases allConditions_cons_eq_ok compiled with ⟨first, others, head, tail, rfl⟩
      rw [List.flatMap_cons]
      exact (conditions_cover head).append (ih tail)

theorem subjects_ne_nil_of_conditions {descriptor : Descriptor} {conditions : List Condition}
    (compiled : descriptor.conditions index = .ok conditions) : descriptor.subjects ≠ [] := by
  intro empty
  simp only [subjects, List.append_eq_nil_iff, Option.toList_eq_nil_iff,
    Option.map_eq_none_iff] at empty
  simp only [Descriptor.conditions, empty.1, empty.2] at compiled
  cases compiled

/-- A descriptor that compiles leaves a condition, so a rule that has one keeps one. -/
theorem allConditions_ne_nil {descriptors : List Descriptor} {conditions : List Condition}
    (compiled : allConditions index descriptors = .ok conditions) (nonempty : descriptors ≠ []) :
    conditions ≠ [] := by
  rintro rfl
  cases descriptors with
  | nil => exact nonempty rfl
  | cons descriptor rest =>
      rcases allConditions_cons_eq_ok compiled with ⟨first, others, head, _, _⟩
      have noSubjects := (allConditions_cover compiled).inOrder
      rw [List.map_nil, List.flatMap_cons, eq_comm, List.append_eq_nil_iff] at noSubjects
      exact subjects_ne_nil_of_conditions head noSubjects.1

end Descriptor

namespace Predicate

/-- The predicate has the form that its execution relies on. -/
structure WellFormed (predicate : Predicate) (descriptors : List Descriptor) : Prop where
  /-- Only the rule without descriptors allows everything. -/
  allowsAll_iff : predicate = .constant true ↔ descriptors = []
  /-- A conjunction has members. -/
  conjoins : descriptors ≠ [] → ∃ first others, predicate = .all (first :: others)
  /-- One condition for each role and one for each field, in the order of the descriptors. -/
  subjects : predicate.conditions.map Condition.subject = descriptors.flatMap Descriptor.subjects
  conditions : ∀ condition ∈ predicate.conditions, condition.WellFormed

/-- Every rule that compiles has that form. -/
theorem compile?_wellFormed {descriptors : List Descriptor} {predicate : Predicate}
    (compiled : compile? descriptors = .ok predicate) : predicate.WellFormed descriptors := by
  rcases compile?_eq_ok compiled with ⟨conditions, lowered, rfl⟩
  have conjoins (nonempty : descriptors ≠ []) :
      ∃ first others, ofConditions conditions = .all (first :: others) := by
    have kept : conditions ≠ [] := Descriptor.allConditions_ne_nil lowered nonempty
    rcases List.exists_cons_of_ne_nil kept with ⟨first, others, rfl⟩
    exact ⟨first, others, rfl⟩
  have cover := Descriptor.allConditions_cover lowered
  rw [← conditions_ofConditions conditions] at cover
  constructor
  case allowsAll_iff =>
    constructor
    · intro allowsAll
      apply Classical.byContradiction
      intro nonempty
      rcases conjoins nonempty with ⟨first, others, isAll⟩
      rw [isAll] at allowsAll
      cases allowsAll
    · rintro rfl
      cases lowered
      rfl
  case conjoins => exact conjoins
  case subjects => exact cover.inOrder
  case conditions => exact cover.wellFormed

/-- A rule with conditions of every kind: a field that is compared with infinity is compared as a
text. -/
theorem compile?_wellFormed_everyKind :
    compile? [
        (Descriptor.ofField "vip" "!=" (.bool true)).andRole "Agent",
        .ofField "limit" "==" (.number (Float.ofBits 0x7FF0000000000000)),
        .ofField "score" ">=" (.number (Float.ofBits 0x4008000000000000)),
        .ofField "age_days" "<" (.number (Float.ofBits 0x4008000000000000)),
        .ofCheck "note" "is_empty"] =
      .ok (.all [.hasRole "Agent", .truth "vip" true true, .text "limit" "inf" false,
        .number "score" .ge (Float.ofBits 0x4008000000000000),
        .time .ageDays .lt (Float.ofBits 0x4008000000000000), .blank "note" true]) ∧
    (all [.hasRole "Agent", .truth "vip" true true, .text "limit" "inf" false,
        .number "score" .ge (Float.ofBits 0x4008000000000000),
        .time .ageDays .lt (Float.ofBits 0x4008000000000000), .blank "note" true]).WellFormed [
      (Descriptor.ofField "vip" "!=" (.bool true)).andRole "Agent",
      .ofField "limit" "==" (.number (Float.ofBits 0x7FF0000000000000)),
      .ofField "score" ">=" (.number (Float.ofBits 0x4008000000000000)),
      .ofField "age_days" "<" (.number (Float.ofBits 0x4008000000000000)),
      .ofCheck "note" "is_empty"] :=
  ⟨rfl, compile?_wellFormed rfl⟩

end Predicate

end WorkflowGuard
