import WorkflowGuard.Proofs.Json.WrittenNumber

/-!
# Written values read back

The reader gives the tree of a value back from its written form, provided that each number of
the value reads back. The induction follows the value; what carries it is that a value is
written without white space, that it ends where a comma, a closing bracket or nothing follows,
and that twice the length of what is left to read bounds the steps of the reader.
-/

namespace WorkflowGuard.Json

namespace Value

mutual

/-- The numbers in a value, from left to right. -/
def numbers : Value → List Number
  | null | bool _ | text _ => []
  | number value => [value]
  | array elements => elementNumbers elements
  | object members => memberNumbers members

def elementNumbers : List Value → List Number
  | [] => []
  | element :: rest => numbers element ++ elementNumbers rest

def memberNumbers : List (String × Value) → List Number
  | [] => []
  | (_, member) :: rest => numbers member ++ memberNumbers rest

end

end Value

/-- The octet can stand in front of a value: it is neither white space nor a closing bracket. -/
def opensValue (octet : UInt8) : Bool :=
  !isLayout octet && octet != 0x5D && octet != 0x7D

theorem opensValue_of_startsNumber {octet : UInt8} (starts : startsNumber octet = true) :
    opensValue octet = true := by
  simp only [startsNumber, isDigit, opensValue, isLayout, Bool.or_eq_true, Bool.and_eq_true,
    Bool.not_eq_true', Bool.or_eq_false_iff, beq_iff_eq, beq_eq_false_iff_ne, bne_iff_ne,
    decide_eq_true_eq] at starts ⊢
  grind

/-- The bytes start as a value does. -/
def Opens (bytes : Bytes) : Prop :=
  ∃ octet tail, bytes = octet :: tail ∧ opensValue octet = true

namespace Opens

variable {bytes : Bytes} {fuel : Nat}

theorem append (opens : Opens bytes) (rest : Bytes) : Opens (bytes ++ rest) := by
  rcases opens with ⟨octet, tail, rfl, octetOpens⟩
  exact ⟨octet, tail ++ rest, rfl, octetOpens⟩

theorem skipLayout_eq (opens : Opens bytes) : skipLayout bytes = bytes := by
  rcases opens with ⟨octet, tail, rfl, octetOpens⟩
  simp only [opensValue, Bool.and_eq_true, Bool.not_eq_true'] at octetOpens
  simp [skipLayout, octetOpens.1.1]

theorem readNode_array (opens : Opens bytes) :
    readNode (fuel + 1) (0x5B :: bytes) =
      (readElements fuel bytes).map fun (elements, rest) => (.array elements, rest) := by
  have bracket : skipLayout (0x5B :: bytes) = 0x5B :: bytes := rfl
  simp only [readNode, bracket, opens.skipLayout_eq]
  rcases opens with ⟨octet, tail, rfl, octetOpens⟩
  split
  next isCons =>
      rcases (List.cons.inj isCons).1 with rfl
      cases octetOpens
  next => rfl

theorem readNode_object (opens : Opens bytes) :
    readNode (fuel + 1) (0x7B :: bytes) =
      (readMembers fuel bytes).map fun (members, rest) => (.object members, rest) := by
  have brace : skipLayout (0x7B :: bytes) = 0x7B :: bytes := rfl
  simp only [readNode, brace, opens.skipLayout_eq]
  rcases opens with ⟨octet, tail, rfl, octetOpens⟩
  split
  next isCons =>
      rcases (List.cons.inj isCons).1 with rfl
      cases octetOpens
  next => rfl

end Opens

section Leaves

variable {fuel : Nat} {rest : Bytes}

theorem readNode_number {octet : UInt8} {tail : Bytes} (starts : startsNumber octet = true) :
    readNode (fuel + 1) (octet :: tail) =
      (readNumeral? (octet :: tail)).map fun (numeral, rest) => (.number numeral.value?, rest) := by
  have opens : Opens (octet :: tail) := ⟨octet, tail, rfl, opensValue_of_startsNumber starts⟩
  rw [readNode, opens.skipLayout_eq]
  split <;> first | rfl | skip
  -- No other token of the reader starts with a minus sign or a digit.
  all_goals
    rename_i isCons
    rcases (List.cons.inj isCons).1 with rfl
    cases starts

/-- A number is read back if its digits end where the number does. -/
theorem readNode_writtenNumber {number : Number} (reads : number.ReadsBack)
    (delimited : Delimited rest) :
    readNode (fuel + 1) (octets number.render.toList ++ rest) =
      some (.number (some number), rest) := by
  rw [Number.ReadsBack, utf8_eq_octets] at reads
  rcases readNumber?_starts reads with ⟨octet, tail, isCons, starts⟩
  have readAppended := delimited.readNumeral?_append (octets number.render.toList)
  unfold readNumber? at reads
  split at reads
  next numeral read =>
      rw [read, isCons] at readAppended
      rw [isCons, List.cons_append, readNode_number starts, ← List.cons_append, readAppended]
      simp [reads]
  next => cases reads

/-- A text ends with its own quotation mark, so that anything may follow. -/
theorem readNode_writtenText (text : String) (rest : Bytes) :
    readNode (fuel + 1) (octets (writeText text) ++ rest) = some (.text (some text), rest) := by
  change (readText? (octets (text.toList.flatMap escapedChar ++ ['"']) ++ rest)).map _ = _
  rw [readText?_written]
  rfl

/-- A member whose name is as it is written. -/
theorem readMembers_name (name : String) (later : Bytes) :
    readMembers (fuel + 1) (octets (writeText name) ++ 0x3A :: later) =
      (readNode fuel later).bind fun (node, rest) =>
        match skipLayout rest with
        | 0x2C :: rest =>
          (readMembers fuel rest).bind fun (members, rest) =>
            some ((some name, node) :: members, rest)
        | 0x7D :: rest => some ([(some name, node)], rest)
        | _ => none := by
  change (readText? (octets (name.toList.flatMap escapedChar ++ ['"']) ++
    0x3A :: later)).bind _ = _
  rw [readText?_written]
  rfl

end Leaves

namespace Value

theorem opens_written (value : Value) (readBack : ∀ number ∈ value.numbers, number.ReadsBack) :
    Opens (octets value.write) := by
  cases value with
  | null => exact ⟨_, _, rfl, rfl⟩
  | bool truth => cases truth <;> exact ⟨_, _, rfl, rfl⟩
  | number content =>
      have reads : content.ReadsBack := readBack content (by simp [numbers])
      rcases readNumber?_starts reads with ⟨octet, tail, written, starts⟩
      rw [utf8_eq_octets] at written
      exact ⟨octet, tail, written, opensValue_of_startsNumber starts⟩
  | text content => exact ⟨_, _, rfl, rfl⟩
  | array elements => exact ⟨_, _, rfl, rfl⟩
  | object members => exact ⟨_, _, rfl, rfl⟩

theorem opens_writtenElements (element : Value) (elements : List Value)
    (readBack : ∀ number ∈ elementNumbers (element :: elements), number.ReadsBack) :
    Opens (octets (writeElements (element :: elements))) := by
  have opens := opens_written element
    fun number mem => readBack number (List.mem_append_left _ mem)
  obtain ⟨later, isAppend⟩ : ∃ later,
      writeElements (element :: elements) = element.write ++ later := by
    cases elements <;> exact ⟨_, rfl⟩
  rw [isAppend, octets_append]
  exact opens.append _

theorem opens_writtenMembers (member : String × Value) (members : List (String × Value)) :
    Opens (octets (writeMembers (member :: members))) := by
  cases members <;> exact ⟨_, _, rfl, rfl⟩

mutual

/-- A value is read back from its written form, whatever delimiter follows. -/
theorem readNode_written (value : Value) (readBack : ∀ number ∈ value.numbers, number.ReadsBack)
    {rest : Bytes} (delimited : Delimited rest) {fuel : Nat}
    (enough : 2 * (octets value.write).length ≤ fuel) :
    readNode fuel (octets value.write ++ rest) = some (Node.ofValue value, rest) := by
  rcases opens_written value readBack with ⟨octet, tail, written, -⟩
  obtain ⟨fuel, rfl⟩ : ∃ less, fuel = less + 1 := by
    rw [written, List.length_cons] at enough
    exact ⟨fuel - 1, by omega⟩
  match value with
  | .null => rfl
  | .bool true => rfl
  | .bool false => rfl
  | .text content => exact readNode_writtenText content rest
  | .number content => exact readNode_writtenNumber (readBack content (by simp [numbers])) delimited
  | .array [] => rfl
  | .array (element :: elements) =>
      have fits : 2 * (octets (writeElements (element :: elements))).length ≤ fuel := by
        change 2 * (octets (writeElements (element :: elements))).length.succ ≤ fuel + 1 at enough
        omega
      have elementsRead := readElements_written (element :: elements) (List.cons_ne_nil _ _)
        readBack rest fits
      have opens := opens_writtenElements element elements readBack
      change readNode (fuel + 1)
        (0x5B :: (octets (writeElements (element :: elements)) ++ rest)) = _
      rw [(opens.append rest).readNode_array, elementsRead]
      rfl
  | .object [] => rfl
  | .object (member :: members) =>
      have fits : 2 * (octets (writeMembers (member :: members))).length ≤ fuel := by
        change 2 * (octets (writeMembers (member :: members))).length.succ ≤ fuel + 1 at enough
        omega
      have membersRead := readMembers_written (member :: members) (List.cons_ne_nil _ _)
        readBack rest fits
      have opens := opens_writtenMembers member members
      change readNode (fuel + 1) (0x7B :: (octets (writeMembers (member :: members)) ++ rest)) = _
      rw [(opens.append rest).readNode_object, membersRead]
      rfl

theorem readElements_written (elements : List Value) (nonempty : elements ≠ [])
    (readBack : ∀ number ∈ elementNumbers elements, number.ReadsBack)
    (rest : Bytes) {fuel : Nat}
    (enough : 2 * (octets (writeElements elements)).length ≤ fuel) :
    readElements fuel (octets (writeElements elements) ++ rest) =
      some (Node.ofElements elements, rest) := by
  match elements with
  | [] => exact absurd rfl nonempty
  | [last] =>
      have written : octets (writeElements [last]) = octets last.write ++ [0x5D] :=
        octets_append _ _
      rw [written, List.length_append, List.length_singleton] at enough
      -- The closing bracket pays for the fuel that is spent here.
      obtain ⟨fuel, rfl⟩ : ∃ less, fuel = less + 1 := ⟨fuel - 1, by omega⟩
      have lastRead := last.readNode_written
        (fun number mem => readBack number (List.mem_append_left _ mem)) (Delimited.bracket rest)
        (show 2 * (octets last.write).length ≤ fuel by omega)
      rw [written, List.append_assoc, List.singleton_append, readElements, lastRead]
      rfl
  | element :: next :: others =>
      have written : octets (writeElements (element :: next :: others)) =
          octets element.write ++ 0x2C :: octets (writeElements (next :: others)) :=
        octets_append _ _
      rw [written, List.length_append, List.length_cons] at enough
      -- The comma pays for the fuel that is spent here.
      obtain ⟨fuel, rfl⟩ : ∃ less, fuel = less + 1 := ⟨fuel - 1, by omega⟩
      have elementRead := element.readNode_written
        (fun number mem => readBack number (List.mem_append_left _ mem))
        (Delimited.comma (octets (writeElements (next :: others)) ++ rest))
        (show 2 * (octets element.write).length ≤ fuel by omega)
      have othersRead := readElements_written (next :: others) (List.cons_ne_nil _ _)
        (fun number mem => readBack number (List.mem_append_right _ mem)) rest
        (show 2 * (octets (writeElements (next :: others))).length ≤ fuel by omega)
      rw [written, List.append_assoc, List.cons_append, readElements, elementRead]
      change (readElements fuel (octets (writeElements (next :: others)) ++ rest)).bind _ = _
      rw [othersRead]
      rfl

theorem readMembers_written (members : List (String × Value)) (nonempty : members ≠ [])
    (readBack : ∀ number ∈ memberNumbers members, number.ReadsBack)
    (rest : Bytes) {fuel : Nat}
    (enough : 2 * (octets (writeMembers members)).length ≤ fuel) :
    readMembers fuel (octets (writeMembers members) ++ rest) =
      some (Node.ofMembers members, rest) := by
  match members with
  | [] => exact absurd rfl nonempty
  | [(name, last)] =>
      have written : octets (writeMembers [(name, last)]) =
          octets (writeText name) ++ 0x3A :: (octets last.write ++ [0x7D]) := by
        rw [writeMembers, octets_append, octets_append, octets_cons, List.append_assoc]
        rfl
      simp only [written, List.length_append, List.length_cons] at enough
      obtain ⟨fuel, rfl⟩ : ∃ less, fuel = less + 1 := ⟨fuel - 1, by omega⟩
      have lastRead := last.readNode_written
        (fun number mem => readBack number (List.mem_append_left _ mem)) (Delimited.brace rest)
        (show 2 * (octets last.write).length ≤ fuel by omega)
      rw [written, List.append_assoc, List.cons_append, List.append_assoc, readMembers_name,
        List.singleton_append, lastRead]
      rfl
  | (name, member) :: next :: others =>
      have written : octets (writeMembers ((name, member) :: next :: others)) =
          octets (writeText name) ++ 0x3A :: (octets member.write ++
            0x2C :: octets (writeMembers (next :: others))) := by
        rw [writeMembers.eq_3 _ _ _ (List.cons_ne_nil _ _), octets_append, octets_append,
          octets_cons, List.append_assoc]
        rfl
      simp only [written, List.length_append, List.length_cons] at enough
      obtain ⟨fuel, rfl⟩ : ∃ less, fuel = less + 1 := ⟨fuel - 1, by omega⟩
      have memberRead := member.readNode_written
        (fun number mem => readBack number (List.mem_append_left _ mem))
        (Delimited.comma (octets (writeMembers (next :: others)) ++ rest))
        (show 2 * (octets member.write).length ≤ fuel by omega)
      have othersRead := readMembers_written (next :: others) (List.cons_ne_nil _ _)
        (fun number mem => readBack number (List.mem_append_right _ mem)) rest
        (show 2 * (octets (writeMembers (next :: others))).length ≤ fuel by omega)
      rw [written, List.append_assoc, List.cons_append, List.append_assoc, readMembers_name,
        List.cons_append, memberRead]
      change (readMembers fuel (octets (writeMembers (next :: others)) ++ rest)).bind _ = _
      rw [othersRead]
      rfl

end

end Value

/-- The whole text of a value is read as its tree. -/
theorem Node.read?_written (value : Value)
    (readBack : ∀ number ∈ value.numbers, number.ReadsBack) :
    Node.read? (Text.utf8 value.render) = some (Node.ofValue value) := by
  have read := value.readNode_written readBack Delimited.nil
    (show 2 * (octets value.write).length ≤ 2 * (octets value.write).length + 2 by omega)
  rw [List.append_nil] at read
  rw [Value.render, utf8_ofList, Node.read?, read]
  rfl

end WorkflowGuard.Json
