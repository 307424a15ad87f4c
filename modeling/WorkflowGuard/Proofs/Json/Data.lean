import WorkflowGuard.Proofs.Json.ReadBack

/-!
# What a tree that was read can hold

Two facts about data that comes from a text. Its whole numbers have 64 bits, because the reader
keeps no others; this is shown once for everything the reader builds and passes from a tree to
its data. And data taken from a tree is in the form in which it is written: it gives itself
back when its own tree is taken, at the same depth.
-/

namespace WorkflowGuard.Json

namespace Numeral

/-- Digits are absorbed only as long as the significand stays within its bound. -/
theorem absorb_lt {significand : Nat} (small : significand < significandBound)
    (digits : List Nat) : (absorb significand digits).1 < significandBound := by
  induction digits generalizing significand with
  | nil => exact small
  | cons digit rest ih =>
      rw [absorb]
      split
      next fits => exact ih fits
      next => exact small

/-- The value of a numeral is one of the numbers that can be represented. -/
theorem value?_representable {numeral : Numeral} {number : Number}
    (isValue : numeral.value? = some number) : number.Representable := by
  have positive : 0 < significandBound := by decide
  have small := absorb_lt positive numeral.whole
  rw [significandBound] at positive small
  simp only [value?] at isValue
  split at isValue
  · split at isValue
    · rcases Option.some.inj isValue with rfl
      simp only [Number.Representable]
      omega
    · split at isValue
      · rcases Option.some.inj isValue with rfl
        trivial
      next large =>
          rcases Option.some.inj isValue with rfl
          have limit : ¬Nat.pow 2 63 < (absorb 0 numeral.whole).1 := fun less =>
            large (by simp only [Bool.or_eq_true]; exact .inr (decide_eq_true less))
          simp only [Number.Representable]
          omega
  · rcases Option.map_eq_some_iff.mp isValue with ⟨value, -, rfl⟩
    trivial

end Numeral

namespace Node

mutual

/-- The numbers in a tree that have content, from left to right. -/
def numbers : Node → List Number
  | null | bool _ | text _ => []
  | number content => content.toList
  | array elements => elementNumbers elements
  | object members => memberNumbers members

def elementNumbers : List Node → List Number
  | [] => []
  | element :: rest => numbers element ++ elementNumbers rest

def memberNumbers : List (Option String × Node) → List Number
  | [] => []
  | (_, member) :: rest => numbers member ++ memberNumbers rest

end

/-- All numbers in the tree are representable. -/
def Representable (node : Node) : Prop :=
  ∀ number ∈ node.numbers, number.Representable

theorem mem_elementNumbers {number : Number} {elements : List Node} :
    number ∈ elementNumbers elements ↔ ∃ element ∈ elements, number ∈ element.numbers := by
  induction elements with
  | nil => simp [elementNumbers]
  | cons element rest ih => simp [elementNumbers, ih]

theorem mem_memberNumbers {number : Number} {members : List (Option String × Node)} :
    number ∈ memberNumbers members ↔ ∃ member ∈ members, number ∈ member.2.numbers := by
  induction members with
  | nil => simp [memberNumbers]
  | cons member rest ih => simp [memberNumbers, ih]

end Node

namespace Value

theorem mem_elementNumbers {number : Number} {elements : List Value} :
    number ∈ elementNumbers elements ↔ ∃ element ∈ elements, number ∈ element.numbers := by
  induction elements with
  | nil => simp [elementNumbers]
  | cons element rest ih => simp [elementNumbers, ih]

theorem mem_memberNumbers {number : Number} {members : List (String × Value)} :
    number ∈ memberNumbers members ↔ ∃ member ∈ members, number ∈ member.2.numbers := by
  induction members with
  | nil => simp [memberNumbers]
  | cons member rest ih => simp [memberNumbers, ih]

end Value

/-- Everything the reader builds within the given number of steps is representable. -/
structure ReadsRepresentable (fuel : Nat) : Prop where
  node : ∀ {bytes rest node}, readNode fuel bytes = some (node, rest) → node.Representable
  elements : ∀ {bytes rest elements}, readElements fuel bytes = some (elements, rest) →
    ∀ number ∈ Node.elementNumbers elements, number.Representable
  members : ∀ {bytes rest members}, readMembers fuel bytes = some (members, rest) →
    ∀ number ∈ Node.memberNumbers members, number.Representable

namespace ReadsRepresentable

variable {fuel : Nat} {bytes rest : Bytes}

/-- A step of the reader takes its numbers from a numeral or from a part of the text. -/
theorem node_succ (below : ReadsRepresentable fuel) {node : Node}
    (read : readNode (fuel + 1) bytes = some (node, rest)) : node.Representable := by
  rw [readNode] at read
  split at read
  iterate 3
    cases read
    exact List.forall_mem_nil _
  · rcases Option.map_eq_some_iff.mp read with ⟨_, -, same⟩
    cases same
    exact List.forall_mem_nil _
  · split at read
    · cases read
      exact List.forall_mem_nil _
    · rcases Option.map_eq_some_iff.mp read with ⟨_, elementsRead, same⟩
      cases same
      exact below.elements elementsRead
  · split at read
    · cases read
      exact List.forall_mem_nil _
    · rcases Option.map_eq_some_iff.mp read with ⟨_, membersRead, same⟩
      cases same
      exact below.members membersRead
  · rcases Option.map_eq_some_iff.mp read with ⟨⟨numeral, _⟩, -, same⟩
    cases same
    intro number mem
    exact Numeral.value?_representable (Option.mem_toList.mp mem)

theorem elements_succ (below : ReadsRepresentable fuel) {elements : List Node}
    (read : readElements (fuel + 1) bytes = some (elements, rest)) :
    ∀ number ∈ Node.elementNumbers elements, number.Representable := by
  rcases Option.bind_eq_some_iff.mp read with ⟨⟨element, afterElement⟩, elementRead, read⟩
  have first := below.node elementRead
  dsimp only at read
  split at read
  · rcases Option.bind_eq_some_iff.mp read with ⟨⟨others, _⟩, othersRead, same⟩
    cases same
    exact List.forall_mem_append.mpr ⟨first, below.elements othersRead⟩
  · cases read
    exact List.forall_mem_append.mpr ⟨first, List.forall_mem_nil _⟩
  · cases read

theorem members_succ (below : ReadsRepresentable fuel) {members : List (Option String × Node)}
    (read : readMembers (fuel + 1) bytes = some (members, rest)) :
    ∀ number ∈ Node.memberNumbers members, number.Representable := by
  rw [readMembers] at read
  split at read
  · rcases Option.bind_eq_some_iff.mp read with ⟨⟨name, _⟩, -, read⟩
    dsimp only at read
    split at read
    · rcases Option.bind_eq_some_iff.mp read with ⟨⟨member, _⟩, memberRead, read⟩
      have first := below.node memberRead
      dsimp only at read
      split at read
      · rcases Option.bind_eq_some_iff.mp read with ⟨⟨others, _⟩, othersRead, same⟩
        cases same
        exact List.forall_mem_append.mpr ⟨first, below.members othersRead⟩
      · cases read
        exact List.forall_mem_append.mpr ⟨first, List.forall_mem_nil _⟩
      · cases read
    · cases read
  · cases read

end ReadsRepresentable

/-- Whatever text is read, its numbers can be represented. -/
theorem readsRepresentable (fuel : Nat) : ReadsRepresentable fuel := by
  induction fuel with
  | zero =>
      exact ⟨fun read => (by cases read), fun read => (by cases read), fun read => (by cases read)⟩
  | succ fuel below => exact ⟨below.node_succ, below.elements_succ, below.members_succ⟩

theorem Node.read?_representable {bytes : Bytes} {node : Node}
    (read : Node.read? bytes = some node) : node.Representable := by
  unfold Node.read? at read
  split at read
  next isRead =>
      split at read
      · cases read
        exact (readsRepresentable _).node isRead
      · cases read
  next => cases read

namespace Node

/-- The data at a depth holds no numbers but those of its tree, and it is the data of its own
tree at this depth. -/
structure IsData (depth : Nat) (node : Node) (value : Value) : Prop where
  numbers : ∀ number ∈ value.numbers, number ∈ node.numbers
  readBack : (ofValue value).value? depth = some value

theorem elementValues?_ofElements {depth : Nat} {values : List Value}
    (readBack : ∀ value ∈ values, (ofValue value).value? depth = some value) :
    elementValues? depth (ofElements values) = some values := by
  induction values with
  | nil => rfl
  | cons value rest ih =>
      rw [ofElements, elementValues?, readBack value List.mem_cons_self,
        ih fun value mem => readBack value (List.mem_cons_of_mem _ mem)]

theorem memberValues?_ofMembers {depth : Nat} {pairs : List (String × Value)}
    (readBack : ∀ pair ∈ pairs, (ofValue pair.2).value? depth = some pair.2) :
    memberValues? depth (ofMembers pairs) = some pairs := by
  induction pairs with
  | nil => rfl
  | cons pair rest ih =>
      simp only [ofMembers, memberValues?, readBack pair List.mem_cons_self,
        ih fun pair mem => readBack pair (List.mem_cons_of_mem _ mem)]

mutual

/-- A node with a value is data within the depth at which it was read. -/
theorem isData_of_value? {depth : Nat} {node : Node} {value : Value}
    (isValue : node.value? depth = some value) : IsData depth node value := by
  match node with
  | .null | .bool _ =>
      cases isValue
      exact ⟨List.forall_mem_nil _, rfl⟩
  | .number content =>
      rcases Option.map_eq_some_iff.mp isValue with ⟨number, rfl, rfl⟩
      exact ⟨fun _ mem => mem, rfl⟩
  | .text content =>
      rcases Option.map_eq_some_iff.mp isValue with ⟨text, rfl, rfl⟩
      exact ⟨List.forall_mem_nil _, rfl⟩
  | .array elements =>
      rw [value?] at isValue
      split at isValue
      next => cases isValue
      next notZero =>
          rcases Option.map_eq_some_iff.mp isValue with ⟨values, areValues, rfl⟩
          have areData := areData_of_elementValues? areValues
          refine ⟨fun number mem => ?_, ?_⟩
          · rcases Value.mem_elementNumbers.mp mem with ⟨value, valueMem, numberMem⟩
            rcases areData value valueMem with ⟨element, elementMem, isData⟩
            exact mem_elementNumbers.mpr ⟨element, elementMem, isData.numbers number numberMem⟩
          · rw [ofValue, value?, if_neg notZero, elementValues?_ofElements fun value mem =>
              (areData value mem).elim fun _ isData => isData.2.readBack]
            rfl
  | .object members =>
      rw [value?] at isValue
      split at isValue
      next => cases isValue
      next notZero =>
          rcases Option.map_eq_some_iff.mp isValue with ⟨pairs, areValues, rfl⟩
          have areData := areData_of_memberValues? areValues
          refine ⟨fun number mem => ?_, ?_⟩
          · rcases Value.mem_memberNumbers.mp mem with ⟨pair, pairMem, numberMem⟩
            rcases areData pair (Assoc.mem_ofPairs pairMem) with ⟨member, memberMem, isData⟩
            exact mem_memberNumbers.mpr ⟨member, memberMem, isData.numbers number numberMem⟩
          · rw [ofValue, value?, if_neg notZero, memberValues?_ofMembers fun pair mem =>
              (areData pair (Assoc.mem_ofPairs mem)).elim fun _ isData => isData.2.readBack]
            exact congrArg (some ∘ Value.object) (Assoc.Sorted.ofPairs pairs).ofPairs_eq

theorem areData_of_elementValues? {depth : Nat} {elements : List Node} {values : List Value}
    (areValues : elementValues? depth elements = some values) :
    ∀ value ∈ values, ∃ element ∈ elements, IsData depth element value := by
  match elements with
  | [] =>
      cases areValues
      exact List.forall_mem_nil _
  | element :: rest =>
      rw [elementValues?] at areValues
      split at areValues
      next first others isFirst areOthers =>
          cases areValues
          refine List.forall_mem_cons.mpr ⟨⟨element, List.mem_cons_self,
            isData_of_value? isFirst⟩, fun value mem => ?_⟩
          rcases areData_of_elementValues? areOthers value mem with ⟨other, otherMem, isData⟩
          exact ⟨other, List.mem_cons_of_mem _ otherMem, isData⟩
      next => cases areValues

theorem areData_of_memberValues? {depth : Nat} {members : List (Option String × Node)}
    {pairs : List (String × Value)} (areValues : memberValues? depth members = some pairs) :
    ∀ pair ∈ pairs, ∃ member ∈ members, IsData depth member.2 pair.2 := by
  match members with
  | [] =>
      cases areValues
      exact List.forall_mem_nil _
  | (name, member) :: rest =>
      simp only [memberValues?] at areValues
      split at areValues
      next first others isFirst areOthers =>
          cases areValues
          refine List.forall_mem_cons.mpr ⟨⟨_, List.mem_cons_self,
            isData_of_value? isFirst⟩, fun pair mem => ?_⟩
          rcases areData_of_memberValues? areOthers pair mem with ⟨other, otherMem, isData⟩
          exact ⟨other, List.mem_cons_of_mem _ otherMem, isData⟩
      next => cases areValues

end

end Node

end WorkflowGuard.Json
