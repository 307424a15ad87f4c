import WorkflowGuard.Predicate
import WorkflowGuard.RuleKey

/-!
# Tables of rules

A table holds one predicate per key. Main statements: after `insert` a look-up gives the new
predicate for its key and the old one for every other key, and the table grows by one exactly if
the key is new.
-/

namespace WorkflowGuard

/-- A finite map from keys to predicates. -/
structure RuleTable where
  /-- The keys with their predicates, in no particular order. -/
  entries : List (RuleKey × Predicate)
  distinct : (entries.map Prod.fst).Nodup

namespace RuleTable

def empty : RuleTable :=
  ⟨[], List.Pairwise.nil⟩

instance : EmptyCollection RuleTable :=
  ⟨empty⟩

def keys (table : RuleTable) : List RuleKey :=
  table.entries.map Prod.fst

def size (table : RuleTable) : Nat :=
  table.entries.length

def find? (table : RuleTable) (key : RuleKey) : Option Predicate :=
  (table.entries.find? fun entry => entry.1 == key).map Prod.snd

/-- The entries of all keys but one. -/
def others (table : RuleTable) (key : RuleKey) : List (RuleKey × Predicate) :=
  table.entries.filter fun entry => entry.1 != key

/-- Puts a predicate under a key, over any predicate that was there. -/
def insert (table : RuleTable) (key : RuleKey) (predicate : Predicate) : RuleTable where
  entries := (key, predicate) :: table.others key
  distinct := by
    refine List.nodup_cons.mpr ⟨?_, table.distinct.sublist (List.filter_sublist.map _)⟩
    simp [others]

variable {table : RuleTable} {key : RuleKey} {predicate : Predicate}

theorem find?_empty : (∅ : RuleTable).find? key = none := rfl

/-- An insertion is seen under its own key and nowhere else. -/
theorem find?_insert (other : RuleKey) :
    (table.insert key predicate).find? other =
      if other = key then some predicate else table.find? other := by
  rw [find?, insert, List.find?_cons]
  split
  case h_1 same =>
    rw [if_pos (beq_iff_eq.mp same).symm]
    rfl
  case h_2 different =>
    have notKey : other ≠ key := fun same => by simp [same] at different
    rw [if_neg notKey, others, List.find?_filter, find?]
    congr 2
    funext entry
    by_cases same : entry.1 = other <;> simp [same, notKey]

/-- The keys of a table are those that can be looked up. -/
theorem mem_keys_iff : key ∈ table.keys ↔ (table.find? key).isSome = true := by
  simp [keys, find?]

theorem size_insert_le : (table.insert key predicate).size ≤ table.size + 1 :=
  Nat.succ_le_succ (List.length_filter_le _ _)

/-- A key that had no predicate makes the table grow. -/
theorem size_insert_of_unbound (unbound : table.find? key = none) :
    (table.insert key predicate).size = table.size + 1 := by
  have allKept : table.others key = table.entries := by
    refine List.filter_eq_self.mpr fun entry member => ?_
    have different := List.find?_eq_none.mp (Option.map_eq_none_iff.mp unbound) entry member
    simpa using different
  exact congrArg (fun entries => entries.length + 1) allKept

end RuleTable

end WorkflowGuard
