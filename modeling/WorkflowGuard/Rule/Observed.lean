import WorkflowGuard.Event
import WorkflowGuard.Rule.Compile

/-!
# Compiling rules with an observer

A rule with a fault denies everything, and somebody is told of the fault, once. What the
observer does with it is up to the caller: a rule on its own is logged, the rules of a registry
are counted too.
-/

namespace WorkflowGuard.Predicate

universe u

variable {σ : Type u} {observe : RuleError → σ → σ} {descriptors : List Descriptor} {state : σ}

/-- Compiles a rule. The observer is told of its fault, if it has one. -/
def compileObserved (observe : RuleError → σ → σ) (descriptors : List Descriptor) (state : σ) :
    Predicate × σ :=
  match compile? descriptors with
  | .ok predicate => (predicate, state)
  | .error error => (denyAll, observe error state)

/-- Compiles a rule on its own, and logs its fault, if it has one. -/
def compileLogged (descriptors : List Descriptor) : Logged Predicate :=
  let (predicate, events) := compileObserved
    (fun error events => events ++ [.ruleDenied error descriptors.length]) descriptors []
  ⟨predicate, events⟩

/-- The observer is told nothing of a rule that compiles. -/
theorem compileObserved_of_ok {predicate : Predicate}
    (compiled : compile? descriptors = .ok predicate) :
    compileObserved observe descriptors state = (compile descriptors, state) := by
  rw [compileObserved, compile, compiled]

/-- The observer is told of a fault once, and has no say in what the rule is compiled to. -/
theorem compileObserved_of_error {error : RuleError}
    (failed : compile? descriptors = .error error) :
    compileObserved observe descriptors state = (compile descriptors, observe error state) := by
  rw [compileObserved, compile, failed]

end WorkflowGuard.Predicate
