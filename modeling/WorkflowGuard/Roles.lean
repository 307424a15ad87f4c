import WorkflowGuard.Json.Record

/-!
# Principals and their roles

A principal is known to the rules only by the roles it holds. Role names are compared exactly.
-/

namespace WorkflowGuard

/-- The acting user. -/
structure Principal where
  /-- The principal holds the role. -/
  holds : String → Bool

/-- A finite set of role names. -/
structure RoleSet where
  names : List String
  distinct : names.Nodup := by decide
  deriving DecidableEq

namespace RoleSet

def anonymous : RoleSet where
  names := []

/-- Adds a name that may be there already. -/
def insert (roles : RoleSet) (name : String) : RoleSet :=
  if known : name ∈ roles.names then roles
  else ⟨name :: roles.names, List.nodup_cons.2 ⟨known, roles.distinct⟩⟩

/-- The set of the given names, each counted once. -/
def ofNames (names : List String) : RoleSet :=
  names.foldl insert anonymous

def size (roles : RoleSet) : Nat :=
  roles.names.length

def principal (roles : RoleSet) : Principal where
  holds name := roles.names.contains name

theorem mem_insert {roles : RoleSet} {name other : String} :
    other ∈ (roles.insert name).names ↔ other = name ∨ other ∈ roles.names := by
  unfold insert
  split <;> simp_all

/-- The set of some names has just these. -/
theorem mem_ofNames {names : List String} {name : String} :
    name ∈ (ofNames names).names ↔ name ∈ names := by
  suffices general : ∀ roles : RoleSet,
      name ∈ (names.foldl insert roles).names ↔ name ∈ roles.names ∨ name ∈ names from by
    simpa [ofNames, anonymous] using general anonymous
  induction names with
  | nil => simp
  | cons head rest ih =>
    intro roles
    rw [List.foldl_cons, ih, mem_insert, List.mem_cons]
    grind

/-- Reads a set of roles from a list of names. -/
def ofNode? (depth : Nat) (node : Json.Node) : Option RoleSet :=
  (node.list? (fun _ name => name.text?) depth).map ofNames

end RoleSet

end WorkflowGuard
