/-!
# Dictionaries in key order

A `Dict` holds one value per name, by ascending code points of the names. Main statements:
looking a name up after `insert` gives the inserted value for that name and the old one for
every other name, and after `erase` gives nothing for the erased name.
-/

namespace WorkflowGuard

universe u v

namespace Assoc

variable {α : Type u} {β : Type v}

/-- The entries are in strictly ascending order of their names, so no name occurs twice. -/
def Sorted (entries : List (String × α)) : Prop :=
  entries.Pairwise fun left right => left.1 < right.1

instance (entries : List (String × α)) : Decidable (Sorted entries) :=
  inferInstanceAs (Decidable (List.Pairwise _ _))

/-- Puts a value at its place, over any value of the same name. -/
def insert (name : String) (value : α) : List (String × α) → List (String × α)
  | [] => [(name, value)]
  | entry :: rest =>
    if name < entry.1 then (name, value) :: entry :: rest
    else if name = entry.1 then (name, value) :: rest
    else entry :: insert name value rest

def find? (name : String) : List (String × α) → Option α
  | [] => none
  | entry :: rest => if name = entry.1 then some entry.2 else find? name rest

def erase (name : String) (entries : List (String × α)) : List (String × α) :=
  entries.filter fun entry => entry.1 ≠ name

/-- The entries in ascending order, the last value of a repeated name being kept. -/
def ofPairs (pairs : List (String × α)) : List (String × α) :=
  pairs.foldl (fun entries pair => insert pair.1 pair.2 entries) []

theorem mem_insert {name : String} {value : α} {entry : String × α}
    {entries : List (String × α)} (member : entry ∈ insert name value entries) :
    entry = (name, value) ∨ entry ∈ entries := by
  induction entries with
  | nil => simpa [insert] using member
  | cons head rest ih =>
    rw [insert] at member
    split at member
    · simpa using member
    · split at member
      · rcases List.mem_cons.1 member with rfl | member
        · exact .inl rfl
        · exact .inr (List.mem_cons_of_mem _ member)
      · rcases List.mem_cons.1 member with rfl | member
        · exact .inr List.mem_cons_self
        · exact (ih member).imp id (List.mem_cons_of_mem _)

theorem Sorted.insert {name : String} {value : α} {entries : List (String × α)}
    (sorted : Sorted entries) : Sorted (Assoc.insert name value entries) := by
  induction entries with
  | nil => simp [Assoc.insert, Sorted]
  | cons head rest ih =>
    obtain ⟨headLt, restSorted⟩ := List.pairwise_cons.1 sorted
    rw [Assoc.insert]
    split
    · rename_i before
      refine List.pairwise_cons.2 ⟨fun entry member => ?_, sorted⟩
      rcases List.mem_cons.1 member with rfl | member
      · exact before
      · exact String.lt_trans before (headLt _ member)
    · split
      · rename_i same
        refine List.pairwise_cons.2 ⟨fun entry member => ?_, restSorted⟩
        simpa [same] using headLt _ member
      · rename_i notBefore different
        refine List.pairwise_cons.2 ⟨fun entry member => ?_, ih restSorted⟩
        rcases mem_insert member with rfl | member
        · have before : head.1 ≤ name := String.not_lt.1 notBefore
          rcases Decidable.em (head.1 < name) with less | notLess
          · exact less
          · exact absurd (String.le_antisymm (String.not_lt.1 notLess) before) different
        · exact headLt _ member

theorem Sorted.erase {name : String} {entries : List (String × α)} (sorted : Sorted entries) :
    Sorted (Assoc.erase name entries) :=
  List.Pairwise.filter _ sorted

theorem Sorted.ofPairs (pairs : List (String × α)) : Sorted (Assoc.ofPairs pairs) := by
  suffices general : ∀ entries : List (String × α), Sorted entries →
      Sorted (pairs.foldl (fun entries pair => Assoc.insert pair.1 pair.2 entries) entries) from
    general [] List.Pairwise.nil
  induction pairs with
  | nil => exact fun entries sorted => sorted
  | cons pair rest ih => exact fun entries sorted => ih _ sorted.insert

theorem mem_ofPairs {pairs : List (String × α)} {entry : String × α}
    (member : entry ∈ ofPairs pairs) : entry ∈ pairs := by
  suffices general : ∀ entries : List (String × α),
      entry ∈ pairs.foldl (fun entries pair => insert pair.1 pair.2 entries) entries →
        entry ∈ entries ∨ entry ∈ pairs from (general [] member).resolve_left List.not_mem_nil
  clear member
  induction pairs with
  | nil => exact fun entries member => .inl member
  | cons pair rest ih =>
    intro entries member
    rcases ih _ member with inserted | later
    · rcases mem_insert inserted with rfl | earlier
      · exact .inr List.mem_cons_self
      · exact .inl earlier
    · exact .inr (List.mem_cons_of_mem _ later)

theorem insert_of_all_lt {name : String} {value : α} {entries : List (String × α)}
    (before : ∀ entry ∈ entries, entry.1 < name) :
    insert name value entries = entries ++ [(name, value)] := by
  induction entries with
  | nil => rfl
  | cons head rest ih =>
    have headLt := before head List.mem_cons_self
    have notBefore : ¬name < head.1 := fun less => String.lt_irrefl _ (String.lt_trans less headLt)
    have different : name ≠ head.1 := by
      rintro rfl
      exact String.lt_irrefl _ headLt
    rw [insert, if_neg notBefore, if_neg different,
      ih fun entry member => before entry (List.mem_cons_of_mem _ member)]
    rfl

theorem Sorted.ofPairs_eq {entries : List (String × α)} (sorted : Sorted entries) :
    Assoc.ofPairs entries = entries := by
  suffices general : ∀ front : List (String × α), Sorted (front ++ entries) →
      entries.foldl (fun entries pair => Assoc.insert pair.1 pair.2 entries) front =
        front ++ entries from general [] sorted
  clear sorted
  induction entries with
  | nil => simp
  | cons head rest ih =>
    intro front sorted
    have before : ∀ entry ∈ front, entry.1 < head.1 := fun entry member =>
      (List.pairwise_append.1 sorted).2.2 entry member head List.mem_cons_self
    have isAppend : front ++ head :: rest = (front ++ [head]) ++ rest := by simp
    rw [List.foldl_cons, insert_of_all_lt before, isAppend]
    exact ih _ (isAppend ▸ sorted)

theorem find?_insert (name other : String) (value : α) (entries : List (String × α)) :
    find? other (insert name value entries) =
      if other = name then some value else find? other entries := by
  induction entries with
  | nil => simp [insert, find?]
  | cons head rest ih => grind [insert, find?]

theorem find?_erase (name other : String) (entries : List (String × α)) :
    find? other (erase name entries) = if other = name then none else find? other entries := by
  induction entries with
  | nil => simp [erase, find?]
  | cons head rest ih => grind [erase, find?]

theorem find?_eq_lookup (name : String) (entries : List (String × α)) :
    find? name entries = entries.lookup name := by
  induction entries with
  | nil => rfl
  | cons head rest ih =>
    rw [find?, List.lookup_cons, ih]
    by_cases same : name = head.1
    · rw [if_pos same, beq_iff_eq.2 same]
    · rw [if_neg same, beq_eq_false_iff_ne.2 same]

theorem find?_isSome_iff {name : String} {entries : List (String × α)} :
    (find? name entries).isSome ↔ name ∈ entries.map Prod.fst := by
  induction entries with
  | nil => simp [find?]
  | cons head rest ih => grind [find?]

theorem mem_of_find? {name : String} {value : α} {entries : List (String × α)}
    (found : find? name entries = some value) : (name, value) ∈ entries := by
  induction entries with
  | nil => simp [find?] at found
  | cons head rest ih => grind [find?]

theorem find?_of_mem {name : String} {value : α} {entries : List (String × α)}
    (sorted : Sorted entries) (member : (name, value) ∈ entries) :
    find? name entries = some value := by
  induction entries with
  | nil => cases member
  | cons head rest ih =>
    obtain ⟨headLt, restSorted⟩ := List.pairwise_cons.1 sorted
    rw [find?]
    rcases List.mem_cons.1 member with rfl | member
    · exact if_pos rfl
    · have different : name ≠ head.1 := by
        rintro rfl
        exact String.lt_irrefl _ (headLt (head.1, value) member)
      rw [if_neg different]
      exact ih restSorted member

theorem find?_eq_none_of_forall_ne {name : String} {entries : List (String × α)}
    (otherNames : ∀ entry ∈ entries, entry.1 ≠ name) : find? name entries = none := by
  rw [← Option.not_isSome_iff_eq_none, find?_isSome_iff, List.mem_map]
  rintro ⟨entry, member, same⟩
  exact otherNames entry member same

end Assoc

/-- A finite map from names to values. -/
structure Dict (α : Type u) where
  /-- The names with their values, in ascending order of the names. -/
  entries : List (String × α)
  sorted : Assoc.Sorted entries := by decide

namespace Dict

variable {α : Type u} {β : Type v}

@[ext]
theorem ext {left right : Dict α} (same : left.entries = right.entries) : left = right := by
  cases left
  cases right
  cases same
  rfl

instance [BEq α] : BEq (Dict α) :=
  ⟨fun left right => left.entries == right.entries⟩

instance [DecidableEq α] : DecidableEq (Dict α) := fun left right =>
  decidable_of_iff (left.entries = right.entries) ⟨ext, congrArg entries⟩

def empty : Dict α :=
  ⟨[], List.Pairwise.nil⟩

instance : EmptyCollection (Dict α) :=
  ⟨empty⟩

instance : Inhabited (Dict α) :=
  ⟨empty⟩

def find? (dict : Dict α) (name : String) : Option α :=
  Assoc.find? name dict.entries

def contains (dict : Dict α) (name : String) : Bool :=
  (dict.find? name).isSome

/-- Gives a name a value, over any value it had. -/
def insert (dict : Dict α) (name : String) (value : α) : Dict α :=
  ⟨Assoc.insert name value dict.entries, dict.sorted.insert⟩

def erase (dict : Dict α) (name : String) : Dict α :=
  ⟨Assoc.erase name dict.entries, dict.sorted.erase⟩

/-- The dictionary of a list of pairs; the last value of a repeated name is kept. -/
def ofPairs (pairs : List (String × α)) : Dict α :=
  ⟨Assoc.ofPairs pairs, .ofPairs pairs⟩

def size (dict : Dict α) : Nat :=
  dict.entries.length

def names (dict : Dict α) : List String :=
  dict.entries.map Prod.fst

/-- The values in ascending order of their names. -/
def values (dict : Dict α) : List α :=
  dict.entries.map Prod.snd

/-- Replaces every value by one computed from its name and itself. -/
def mapEntries (dict : Dict α) (f : String → α → β) : Dict β :=
  ⟨dict.entries.map fun entry => (entry.1, f entry.1 entry.2),
    by simpa [Assoc.Sorted, List.pairwise_map] using dict.sorted⟩

/-- What is inserted under a name is found there, and nothing changes elsewhere. -/
theorem find?_insert (dict : Dict α) (name other : String) (value : α) :
    (dict.insert name value).find? other =
      if other = name then some value else dict.find? other :=
  Assoc.find?_insert name other value dict.entries

/-- An erased name has no value, and nothing changes elsewhere. -/
theorem find?_erase (dict : Dict α) (name other : String) :
    (dict.erase name).find? other = if other = name then none else dict.find? other :=
  Assoc.find?_erase name other dict.entries

theorem find?_mapEntries (dict : Dict α) (f : String → α → β) (name : String) :
    (dict.mapEntries f).find? name = (dict.find? name).map (f name) := by
  show Assoc.find? name (dict.entries.map _) = (Assoc.find? name dict.entries).map (f name)
  induction dict.entries with
  | nil => rfl
  | cons head rest ih => grind [Assoc.find?]

theorem mapEntries_eq_self {dict : Dict α} {f : String → α → α}
    (fixed : ∀ entry ∈ dict.entries, f entry.1 entry.2 = entry.2) : dict.mapEntries f = dict := by
  refine ext ((List.map_congr_left fun entry member => ?_).trans dict.entries.map_id)
  rw [fixed entry member]
  rfl

theorem mem_entries_of_find? {dict : Dict α} {name : String} {value : α}
    (found : dict.find? name = some value) : (name, value) ∈ dict.entries :=
  Assoc.mem_of_find? found

theorem find?_eq_some_iff {dict : Dict α} {name : String} {value : α} :
    dict.find? name = some value ↔ (name, value) ∈ dict.entries :=
  ⟨mem_entries_of_find?, Assoc.find?_of_mem dict.sorted⟩

theorem ofPairs_entries (dict : Dict α) : ofPairs dict.entries = dict :=
  ext dict.sorted.ofPairs_eq

/-- A dictionary may be filled entry by entry, with values that look at what is there already
under the name: there is nothing yet. -/
theorem foldl_insert_eq_mapEntries (dict : Dict α) (f : String → Option β → α → β) :
    dict.entries.foldl (fun filled entry =>
        filled.insert entry.1 (f entry.1 (filled.find? entry.1) entry.2)) ∅ =
      dict.mapEntries fun name value => f name none value := by
  suffices general : ∀ (rest front : List (String × α)) (filled : Dict β),
      Assoc.Sorted (front ++ rest) →
      filled.entries = front.map (fun entry => (entry.1, f entry.1 none entry.2)) →
        (rest.foldl (fun filled entry =>
          filled.insert entry.1 (f entry.1 (filled.find? entry.1) entry.2)) filled).entries =
            (front ++ rest).map fun entry => (entry.1, f entry.1 none entry.2) from
    ext (general dict.entries [] ∅ dict.sorted rfl)
  intro rest
  induction rest with
  | nil => exact fun front filled _ entries => by simpa using entries
  | cons head rest ih =>
    intro front filled sorted entries
    have isAppend : front ++ head :: rest = (front ++ [head]) ++ rest := by simp
    have before : ∀ entry ∈ filled.entries, entry.1 < head.1 := by
      rw [entries, List.forall_mem_map]
      exact fun entry member =>
        (List.pairwise_append.1 sorted).2.2 entry member head List.mem_cons_self
    have missing : filled.find? head.1 = none :=
      Assoc.find?_eq_none_of_forall_ne fun entry member same =>
        String.lt_irrefl _ (same ▸ before entry member)
    rw [List.foldl_cons, isAppend, missing]
    refine ih _ _ (isAppend ▸ sorted) ?_
    show Assoc.insert _ _ filled.entries = _
    rw [Assoc.insert_of_all_lt before, entries]
    simp

end Dict

end WorkflowGuard
