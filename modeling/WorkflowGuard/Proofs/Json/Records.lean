import WorkflowGuard.Json.Record
import WorkflowGuard.Proofs.Json.Data

/-!
# Records, lists and dictionaries, read and written

Each reader of a compound is taken apart in two directions. What it read, it read from parts of
the tree one level down, and the parts hold no numbers but those of the tree. And from the tree
of a written compound it reads what its parts give, in the order in which they were written. The
records of the library then need one argument per field.
-/

namespace WorkflowGuard.Json.Node

variable {α : Type}

section Parts

variable {node : Node}

theorem namedMembers?_mem {members : List (Option String × Node)} {named : List (String × Node)}
    (areNamed : namedMembers? members = some named) :
    ∀ member ∈ named, (some member.1, member.2) ∈ members := by
  induction members generalizing named with
  | nil =>
      cases areNamed
      exact List.forall_mem_nil _
  | cons member rest ih =>
      simp only [namedMembers?] at areNamed
      split at areNamed
      next name others isName areOthers =>
          cases areNamed
          refine List.forall_mem_cons.mpr ⟨?_, fun other mem => ?_⟩
          · rw [← isName]
            exact List.mem_cons_self
          · exact List.mem_cons_of_mem _ (ih areOthers other mem)
      next => cases areNamed

theorem fields?_representable {names : List String} {fields : List (String × Node)}
    (areFields : node.fields? names = some fields) (representable : node.Representable) :
    ∀ field ∈ fields, field.2.Representable := by
  intro field mem
  unfold fields? at areFields
  split at areFields
  next elements =>
      split at areFields
      next =>
          cases areFields
          have elementMem : field.2 ∈ elements := (List.of_mem_zip mem).2
          exact fun number numberMem =>
            representable number (mem_elementNumbers.mpr ⟨_, elementMem, numberMem⟩)
      next => cases areFields
  next members =>
      split at areFields
      next named areNamed =>
          dsimp only at areFields
          split at areFields
          next =>
              cases areFields
              have memberMem := namedMembers?_mem areNamed field (List.mem_filter.mp mem).1
              exact fun number numberMem =>
                representable number (mem_memberNumbers.mpr ⟨_, memberMem, numberMem⟩)
          next => cases areFields
      next => cases areFields
  next => cases areFields

/-- A record takes one level, and its fields are read below. -/
theorem record?_eq_some {names : List String} {read : Nat → List (String × Node) → Option α}
    {depth : Nat} {content : α} (isRead : record? names read depth node = some content) :
    ∃ less fields, depth = less + 1 ∧ node.fields? names = some fields ∧
      read less fields = some content := by
  unfold record? at isRead
  split at isRead
  next less fields areFields => exact ⟨less, fields, rfl, areFields, isRead⟩
  next => cases isRead

theorem fieldOr?_eq_some {fields : List (String × Node)} {name : String} {absent content : α}
    {read : Node → Option α} (isRead : fieldOr? fields name absent read = some content) :
    content = absent ∨ ∃ field ∈ fields, read field.2 = some content := by
  unfold fieldOr? at isRead
  split at isRead
  next field found =>
      rcases List.lookup_eq_some_iff.mp found with ⟨front, back, rfl, -⟩
      exact .inr ⟨_, List.mem_append_right _ List.mem_cons_self, isRead⟩
  next => exact .inl (Option.some.inj isRead).symm

theorem optional?_of_ne_null {read : Node → Option α} (notNull : node ≠ null) :
    node.optional? read = (read node).map some := by
  cases node <;> first | rfl | exact absurd rfl notNull

theorem optional?_eq_some {read : Node → Option α} {content : α}
    (isRead : node.optional? read = some (some content)) :
    node ≠ null ∧ read node = some content := by
  unfold optional? at isRead
  split at isRead
  next => cases isRead
  next notNull =>
      rcases Option.map_eq_some_iff.mp isRead with ⟨_, isRead, same⟩
      cases same
      exact ⟨notNull, isRead⟩

theorem mem_of_mapM_eq_some {β : Type} {f : β → Option α} {items : List β} {contents : List α}
    (isRead : items.mapM f = some contents) :
    ∀ content ∈ contents, ∃ item ∈ items, f item = some content := by
  induction items generalizing contents with
  | nil =>
      cases isRead
      exact List.forall_mem_nil _
  | cons item rest ih =>
      rw [List.mapM_cons] at isRead
      rcases Option.bind_eq_some_iff.mp isRead with ⟨first, isFirst, isRead⟩
      rcases Option.bind_eq_some_iff.mp isRead with ⟨others, areOthers, same⟩
      cases same
      refine List.forall_mem_cons.mpr ⟨⟨item, List.mem_cons_self, isFirst⟩, fun content mem => ?_⟩
      rcases ih areOthers content mem with ⟨other, otherMem, isOther⟩
      exact ⟨other, List.mem_cons_of_mem _ otherMem, isOther⟩

/-- A list takes one level, and each of its items is read from an element. -/
theorem list?_eq_some {read : Nat → Node → Option α} {depth : Nat} {contents : List α}
    (isRead : list? read depth node = some contents) (representable : node.Representable) :
    ∃ less, depth = less + 1 ∧ ∀ content ∈ contents,
      ∃ element : Node, element.Representable ∧ read less element = some content := by
  unfold list? at isRead
  split at isRead
  next less elements =>
      refine ⟨less, rfl, fun content mem => ?_⟩
      rcases mem_of_mapM_eq_some isRead content mem with ⟨element, elementMem, isElement⟩
      exact ⟨element, fun number numberMem =>
        representable number (mem_elementNumbers.mpr ⟨_, elementMem, numberMem⟩), isElement⟩
  next => cases isRead

/-- A dictionary takes one level, and each of its values is read from a member. -/
theorem dict?_eq_some {read : Nat → Node → Option α} {depth : Nat} {dict : Dict α}
    (isRead : dict? read depth node = some dict) (representable : node.Representable) :
    ∃ less, depth = less + 1 ∧ ∀ entry ∈ dict.entries,
      ∃ member : Node, member.Representable ∧ read less member = some entry.2 := by
  unfold dict? at isRead
  split at isRead
  next less members =>
      refine ⟨less, rfl, fun entry mem => ?_⟩
      rcases Option.bind_eq_some_iff.mp isRead with ⟨named, areNamed, isRead⟩
      rcases Option.bind_eq_some_iff.mp isRead with ⟨pairs, arePairs, same⟩
      cases same
      rcases mem_of_mapM_eq_some arePairs entry (Assoc.mem_ofPairs mem) with
          ⟨member, memberMem, isMember⟩
      rcases Option.map_eq_some_iff.mp isMember with ⟨content, isContent, rfl⟩
      have inTree := namedMembers?_mem areNamed member memberMem
      exact ⟨member.2, fun number numberMem =>
        representable number (mem_memberNumbers.mpr ⟨_, inTree, numberMem⟩), isContent⟩
  next => cases isRead

end Parts

section Written

/-- The fields of a record whose members are the given ones. -/
def fieldsOf (members : List (String × Value)) : List (String × Node) :=
  members.map fun member => (member.1, ofValue member.2)

theorem namedMembers?_ofMembers (members : List (String × Value)) :
    namedMembers? (ofMembers members) = some (fieldsOf members) := by
  induction members with
  | nil => rfl
  | cons member rest ih => simp only [ofMembers, namedMembers?, ih, fieldsOf, List.map_cons]

theorem ofElements_eq_map (elements : List Value) : ofElements elements = elements.map ofValue := by
  induction elements with
  | nil => rfl
  | cons element rest ih => rw [ofElements, ih, List.map_cons]

theorem lookup_fieldsOf (name : String) (members : List (String × Value)) :
    (fieldsOf members).lookup name = (members.lookup name).map ofValue := by
  induction members with
  | nil => rfl
  | cons member rest ih =>
      rcases member with ⟨field, value⟩
      rw [fieldsOf] at ih ⊢
      rw [List.map_cons, List.lookup_cons, List.lookup_cons, ih]
      cases name == field <;> rfl

/-- A record whose fields are written in their order is read from just these fields. -/
theorem record?_written {names : List String} {read : Nat → List (String × Node) → Option α}
    {depth : Nat} {members : List (String × Value)} (distinct : names.Nodup)
    (inOrder : (members.map Prod.fst).Sublist names) :
    record? names read (depth + 1) (ofValue (.object members)) = read depth (fieldsOf members) := by
  have sameNames : (fieldsOf members).map Prod.fst = members.map Prod.fst := by
    rw [fieldsOf, List.map_map]
    rfl
  have known : ∀ field ∈ fieldsOf members, names.contains field.1 = true := by
    intro field mem
    have nameMem : field.1 ∈ members.map Prod.fst := sameNames ▸ List.mem_map_of_mem mem
    exact List.contains_iff_mem.mpr (inOrder.subset nameMem)
  have areFields : (ofValue (.object members)).fields? names = some (fieldsOf members) := by
    simp only [ofValue, fields?, namedMembers?_ofMembers]
    rw [List.filter_eq_self.mpr known, if_pos (sameNames ▸ distinct.sublist inOrder)]
  simp only [record?, areFields]

/-- A member that is left out if it has no content is found if it has. -/
theorem lookup_toList (name other : String) (content : Option α) (write : α → Value) :
    (content.map fun value => (name, write value)).toList.lookup other =
      if other = name then content.map write else none := by
  cases content with
  | none => simp
  | some value =>
      rw [Option.map_some, Option.toList_some, List.lookup_cons]
      by_cases same : other = name
      · rw [if_pos same, beq_iff_eq.mpr same]
        rfl
      · rw [if_neg same, beq_eq_false_iff_ne.mpr same]
        rfl

theorem toList_sublist (name : String) (content : Option α) (write : α → Value) :
    ((content.map fun value => (name, write value)).toList.map Prod.fst).Sublist [name] := by
  cases content with
  | none => exact List.nil_sublist _
  | some value => exact List.Sublist.refl _

section Fields

variable {members : List (String × Value)} {name : String} {read : Node → Option α}

/-- A part that is left out when it is missing is read back as missing. -/
theorem fieldOr?_optional {write : α → Value} {content : Option α}
    (found : members.lookup name = content.map write)
    (readBack : ∀ value ∈ content, (ofValue (write value)).optional? read = some (some value)) :
    fieldOr? (fieldsOf members) name none (·.optional? read) = some content := by
  rw [fieldOr?, lookup_fieldsOf, found]
  cases content with
  | none => rfl
  | some value => exact readBack value rfl

theorem fieldOr?_written {absent content : α} {member : Value}
    (found : members.lookup name = some member) (readBack : read (ofValue member) = some content) :
    fieldOr? (fieldsOf members) name absent read = some content := by
  rw [fieldOr?, lookup_fieldsOf, found]
  exact readBack

theorem required?_written {member : Value} (found : members.lookup name = some member) :
    required? (fieldsOf members) name read = read (ofValue member) := by
  rw [required?, lookup_fieldsOf, found]
  rfl

end Fields

theorem mapM_written {β : Type} {f : β → Option α} {write : α → β} {spelled : α → α}
    {contents : List α}
    (readBack : ∀ content ∈ contents, f (write content) = some (spelled content)) :
    (contents.map write).mapM f = some (contents.map spelled) := by
  induction contents with
  | nil => rfl
  | cons content rest ih =>
      rw [List.map_cons, List.mapM_cons, readBack content List.mem_cons_self,
        ih fun other mem => readBack other (List.mem_cons_of_mem _ mem)]
      rfl

/-- The elements of a written list are read one by one; each may be read as another content. -/
theorem list?_written {read : Nat → Node → Option α} {depth : Nat} {write : α → Value}
    {spelled : α → α} {contents : List α}
    (readBack : ∀ content ∈ contents,
      read depth (ofValue (write content)) = some (spelled content)) :
    list? read (depth + 1) (ofValue (.array (contents.map write))) =
      some (contents.map spelled) := by
  rw [ofValue, ofElements_eq_map, List.map_map]
  exact mapM_written readBack

theorem dict?_written {read : Nat → Node → Option α} {depth : Nat} {write : α → Value}
    {spelled : α → α} {dict : Dict α}
    (readBack : ∀ entry ∈ dict.entries,
      read depth (ofValue (write entry.2)) = some (spelled entry.2)) :
    dict? read (depth + 1)
      (ofValue (.object (dict.entries.map fun entry => (entry.1, write entry.2)))) =
        some (dict.mapEntries fun _ => spelled) := by
  have pairs : (dict.entries.map fun entry => (entry.1, ofValue (write entry.2))).mapM
      (fun member => (read depth member.2).map (member.1, ·)) =
        some (dict.mapEntries fun _ => spelled).entries :=
    mapM_written fun entry mem => by rw [readBack entry mem, Option.map_some]
  have fields : fieldsOf (dict.entries.map fun entry => (entry.1, write entry.2)) =
      dict.entries.map fun entry => (entry.1, ofValue (write entry.2)) := by
    rw [fieldsOf, List.map_map]
    rfl
  rw [ofValue, dict?, namedMembers?_ofMembers, fields]
  simp only [Option.bind_eq_bind, Option.bind_some, pairs, Dict.ofPairs_entries, Option.pure_def]

end Written

end WorkflowGuard.Json.Node
