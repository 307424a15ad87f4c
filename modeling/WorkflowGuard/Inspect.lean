import WorkflowGuard.Watch

/-!
# Diagnostic texts

Predicates, registries, coordinators and engines have a text for diagnostics: the name of what
it is, and its parts by name. Parts that are left out show as two points at the end.
-/

namespace WorkflowGuard

namespace Inspect

def braces (parts : List String) : String :=
  "\x7b " ++ String.intercalate ", " parts ++ " \x7d"

def record (name : String) (parts : List (String × String)) : String :=
  name ++ " " ++ braces (parts.map fun (part, text) => part ++ ": " ++ text)

/-- A record of which some parts are left out. -/
def openRecord (name : String) (parts : List (String × String)) : String :=
  name ++ " " ++ braces (parts.map (fun (part, text) => part ++ ": " ++ text) ++ [".."])

def truth (value : Bool) : String :=
  if value then "true" else "false"

def option (value : Option String) : String :=
  match value with
  | some text => "Some(" ++ text ++ ")"
  | none => "None"

/-- Constants show at least one digit after the point; very small and very large ones have an
exponent part. -/
def numberLayout : Decimal.Layout where
  least := some (-4)
  greatest := some 15
  wholeHasPoint := true
  exponentHasPlus := false
  tie := .up

end Inspect

def Condition.inspect : Condition → String
  | hasRole role => "HasRole(" ++ Text.quoted role ++ ")"
  | time field comparison value =>
    Inspect.record "Virtual"
      [("field", field.label), ("comparison", comparison.name),
        ("value", Inspect.numberLayout.write value)]
  | number key comparison value =>
    Inspect.record "Number"
      [("key", Text.quoted key), ("comparison", comparison.name),
        ("value", Inspect.numberLayout.write value)]
  | truth key expected negate =>
    Inspect.record "Bool"
      [("key", Text.quoted key), ("expected", Inspect.truth expected),
        ("negate", Inspect.truth negate)]
  | text key expected negate =>
    Inspect.record "Text"
      [("key", Text.quoted key), ("expected", Text.quoted expected),
        ("negate", Inspect.truth negate)]
  | blank key expectBlank =>
    Inspect.record "Blank"
      [("key", Text.quoted key), ("expect_blank", Inspect.truth expectBlank)]

def Predicate.inspect : Predicate → String
  | constant true => "CompiledPredicate(allow_all)"
  | constant false => "CompiledPredicate(deny_all)"
  | all conditions =>
    "CompiledPredicate([" ++ String.intercalate ", " (conditions.map Condition.inspect) ++ "])"

def Policy.inspect : Policy → String
  | allow => "Allow"
  | deny => "Deny"

def Registry.inspect (registry : Registry) : String :=
  Inspect.openRecord "RuleRegistry"
    [("generation", toString registry.generation),
      ("fingerprint", Text.quoted registry.fingerprint.hex),
      ("rules", toString registry.size),
      ("defaults", Inspect.record "DefaultPolicies"
        [("transition", registry.policies.transition.inspect),
          ("group", registry.policies.group.inspect)]),
      ("default_domain", Inspect.option (registry.defaultDomain.map Text.quoted)),
      ("stats", Inspect.record "RegistryStats"
        [("domains", toString registry.stats.domains),
          ("rules", toString registry.stats.rules),
          ("failed_rules", toString registry.stats.failedRules)])]

def Coordinator.inspect (coordinator : Coordinator) : String :=
  Inspect.openRecord "ReloadCoordinator" [("generation", toString coordinator.generation)]

def Revision.inspect : Revision → String
  | file modified length =>
    Inspect.record "File"
      [("modified", Inspect.option (modified.map fun instant =>
          Inspect.record "SystemTime"
            [("tv_sec", toString instant.seconds), ("tv_nsec", toString instant.nanos)])),
        ("len", toString length)]
  | version number => s!"Version({number})"

/-- The diagnostic text of an engine over a source. -/
def Engine.inspect (engine : Engine) (source : Source) : String :=
  Inspect.record "RuleEngine"
    [("source", Text.quoted source.description),
      ("coordinator", engine.coordinator.inspect),
      ("loaded_revision", Inspect.option (engine.loadedRevision.map Revision.inspect))]

/-- The diagnostic text of the counters of a watcher. -/
def WatchCounters.inspect (counters : WatchCounters) : String :=
  Inspect.record "WatcherStats"
    [("raw_events", toString counters.rawEvents), ("reloads", toString counters.reloads),
      ("skipped", toString counters.skipped), ("failures", toString counters.failures)]

end WorkflowGuard
