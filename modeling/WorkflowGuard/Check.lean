import WorkflowGuard.Engine

/-!
# Checking a configuration

The command `rules-check` loads a configuration, reports its size, its fingerprint and the
rules that cannot be compiled, and on request shows what the rules say of one ticket. The
status is 0 if every rule compiles, 1 if some rule does not, and 2 if the check could not be
made. Arguments that are not text abort the command with the status 101.
-/

namespace WorkflowGuard.Check

/-- What the arguments ask for. -/
structure Options where
  config : Option String := none
  ticket : Option String := none
  roles : List String := []
  groups : List String := []
  watch : Bool := false
  deriving DecidableEq, Repr

/-- Why the arguments make no sense. -/
inductive UsageError where
  /-- The option at the end needs a value. -/
  | missingValue (option : String)
  | unknownArgument (argument : String)
  | unexpectedArgument (argument : String)
  deriving DecidableEq, Repr

/-- The text of a fault in the arguments. -/
def UsageError.message : UsageError → String
  | missingValue option => option ++ " requires a value"
  | unknownArgument argument => "unknown argument: " ++ argument
  | unexpectedArgument argument => "unexpected argument: " ++ argument

/-- What to do. -/
inductive Request where
  | help
  | check (options : Options)
  deriving DecidableEq, Repr

/-- The roles in a list with commas; blank ones do not count. -/
def splitRoles (text : String) : List String :=
  ((text.splitOn ",").map Text.trim).filter (· != "")

/-- Reads the arguments from left to right. A request for help ends the reading. -/
def parse (options : Options) : List String → Except UsageError Request
  | [] => .ok (.check options)
  | argument :: rest =>
    if argument = "--ticket" ∨ argument = "-t" then
      match rest with
      | [] => .error (.missingValue "--ticket")
      | path :: rest => parse { options with ticket := some path } rest
    else if argument = "--roles" ∨ argument = "-r" then
      match rest with
      | [] => .error (.missingValue "--roles")
      | roles :: rest => parse { options with roles := splitRoles roles } rest
    else if argument = "--group" ∨ argument = "-g" then
      match rest with
      | [] => .error (.missingValue "--group")
      | group :: rest => parse { options with groups := options.groups ++ [group] } rest
    else if argument = "--watch" ∨ argument = "-w" then
      parse { options with watch := true } rest
    else if argument = "--help" ∨ argument = "-h" then .ok .help
    else if argument.toList.head? = some '-' then .error (.unknownArgument argument)
    else if options.config.isSome then .error (.unexpectedArgument argument)
    else parse { options with config := some argument } rest

def usage : List String :=
  ["rules-check - validate a ticket rule configuration",
    "",
    "USAGE:",
    "    rules-check [OPTIONS] <CONFIG>",
    "",
    "OPTIONS:",
    "    -t, --ticket <FILE>      Ticket snapshot (JSON) to evaluate",
    "    -r, --roles <A,B,..>     Roles held by the principal",
    "    -g, --group <NAME>       Rule group to evaluate (repeatable)",
    "    -w, --watch              Keep running and reload on change",
    "    -h, --help               Print help information",
    "",
    "Log verbosity follows RUST_LOG [default: info]."]

/-- What the check needs to know of the world: the files, or why one cannot be read, the
present instant, and an identifier for a ticket that has none. -/
structure World where
  file : String → Except String (Option Instant × Bytes)
  now : Instant
  fresh : TicketId

/-- What a check prints, and its status. -/
structure Output where
  out : List String
  errors : List String
  status : Nat
  deriving DecidableEq, Repr

/-- The file at a path as a source of configuration. -/
def World.source (world : World) (path : String) : Source :=
  match world.file path with
  | .ok (modified, contents) => .ofFile path modified contents
  | .error reason => .ofUnreadableFile path reason

/-- The ticket in a file, or why there is none. -/
def World.ticket (world : World) (path : String) : Except String Ticket :=
  match world.file path with
  | .error reason => .error (path ++ ": " ++ reason)
  | .ok (_, contents) =>
    match Text.ofUtf8? contents with
    | none => .error (path ++ ": stream did not contain valid UTF-8")
    | some _ =>
      match (Json.Node.read? contents).bind (Ticket.ofNode? world.fresh Json.maxDepth) with
      | some ticket => .ok ticket
      | none => .error (path ++ ": invalid ticket: unreadable")

def summary (registry : Registry) (source : Source) : List String :=
  ["source:       " ++ source.description,
    "fingerprint:  " ++ registry.fingerprint.hex,
    "domains:      " ++ toString registry.stats.domains,
    "rules:        " ++ toString registry.stats.rules,
    "failed rules: " ++ toString registry.stats.failedRules]

def ruleLine (rule : RuleInfo) : String :=
  let factor := match rule.multiplier with
    | some factor => " x" ++ Decimal.plain.write factor
    | none => ""
  "    [" ++ toString rule.index ++ "] " ++ rule.name.getD "-" ++ factor

def groupLines (registry : Registry) (ticket : Ticket) (principal : Principal) (now : Instant)
    (group : String) : List String :=
  let rules := registry.matchingRules ticket principal group now
  let factor := registry.combinedMultiplier ticket principal group now
  ("  " ++ group ++ ": " ++ toString rules.length ++ " matching rule(s)") ::
    rules.map ruleLine ++ ["  " ++ group ++ " multiplier: " ++ Decimal.plain.write factor]

def ticketLines (registry : Registry) (ticket : Ticket) (principal : Principal)
    (now : Instant) (groups : List String) : List String :=
  let states := registry.validNextStates ticket principal now
  let next := if states.isEmpty then "(none)" else String.intercalate ", " states
  ["", "ticket " ++ ticket.id.write ++ " (" ++ ticket.domain ++ ":" ++ ticket.status ++ ")",
    "  valid next states: " ++ next] ++
    groups.flatMap (groupLines registry ticket principal now)

/-- The lines about the configuration and the ticket, and the fault that ends them, if any. -/
def report (world : World) (options : Options) (registry : Registry) (source : Source) :
    List String × Option String :=
  match options.ticket with
  | none => (summary registry source, none)
  | some path =>
    match world.ticket path with
    | .error reason => (summary registry source, some reason)
    | .ok ticket =>
      let principal := (RoleSet.ofNames options.roles).principal
      (summary registry source ++
        ticketLines registry ticket principal world.now options.groups, none)

def run (world : World) (options : Options) : Output :=
  match options.config with
  | none => ⟨[], ["error: missing <CONFIG> argument"], 2⟩
  | some path =>
    let source := world.source path
    match (Engine.start source).value with
    | .error error => ⟨[], ["error: " ++ error.message], 2⟩
    | .ok engine =>
      match report world options engine.registry source with
      | (lines, some reason) => ⟨lines, ["error: " ++ reason], 2⟩
      | (lines, none) => ⟨lines, [], if engine.registry.stats.failedRules = 0 then 0 else 1⟩

/-- The answer to arguments that are all text, the first being the name of the command. -/
def respond (world : World) (words : List String) : Output :=
  match parse {} words.tail with
  | .error error => ⟨[], ["error: " ++ error.message, "run with --help for usage"], 2⟩
  | .ok .help => ⟨usage, [], 0⟩
  | .ok (.check options) => run world options

/-- The arguments as texts, if all of them are. -/
def words? (arguments : List Bytes) : Option (List String) :=
  arguments.mapM Text.ofUtf8?

/-- The answer to arguments as the system hands them over, which need not be text. All of them are
taken as texts before any is looked at; if one is not, the command is aborted. -/
def answer (world : World) (arguments : List Bytes) : Output :=
  match words? arguments with
  | none => ⟨[], [], 101⟩
  | some words => respond world words

def paths (arguments : List String) : List String :=
  match parse {} arguments with
  | .ok (.check options) => options.config.toList ++ options.ticket.toList
  | _ => []

end WorkflowGuard.Check
