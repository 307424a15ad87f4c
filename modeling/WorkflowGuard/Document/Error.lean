/-!
# Faults of a whole document

Any of these faults keeps a document from being used; faults in the conditions of one rule are
not among them.
-/

namespace WorkflowGuard

/-- Why a document is refused. -/
inductive DocumentError where
  /-- The bytes are no JSON text of the right shape; where and how the reader noticed. -/
  | malformed (reason : String) (line column : Nat)
  /-- The name at this place is blank. -/
  | blankName (path : String)
  /-- Two rules of a domain guard the same edge. -/
  | duplicateTransition (domain source target : String)
  /-- The multiplier of a group rule is no finite number. -/
  | invalidMultiplier (domain group : String) (index : Nat)
  deriving DecidableEq, Repr

namespace DocumentError

def message : DocumentError → String
  | malformed reason line column =>
    s!"Configuration is not valid JSON: {reason} (line {line}, column {column})"
  | blankName path => s!"Configuration field '{path}' cannot be blank"
  | duplicateTransition domain source target =>
    s!"Duplicate transition rule in domain '{domain}': {source} -> {target}"
  | invalidMultiplier domain group index =>
    s!"Rule {index} in group '{group}' of domain '{domain}' has a non-finite multiplier"

end DocumentError

end WorkflowGuard
