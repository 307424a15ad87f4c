import WorkflowGuard.Check

/-!
# What the arguments of a check say

The arguments of a check are a sequence of items: options with a value, the flag for watching,
and paths. An option takes the argument behind it whatever that looks like, so only the reading
from the left tells which arguments are options. It ends when all arguments are read, or at the
first that asks for help, is unknown, or misses its value.

The reading is a relation here. It says nothing about what the items are good for: which of
several tickets counts, or that a second path is refused. That is left to a function that takes
one item at a time. The parser does both at once, and the main statement is that it is the
reading followed by this function.
-/

namespace WorkflowGuard.Check

/-- The options that take a value. -/
inductive ValueOption where
  | ticket
  | roles
  | group
  deriving DecidableEq, Repr

def ValueOption.longName : ValueOption → String
  | ticket => "--ticket"
  | roles => "--roles"
  | group => "--group"

def ValueOption.shortName : ValueOption → String
  | ticket => "-t"
  | roles => "-r"
  | group => "-g"

/-- All options and flags that are known. -/
def knownNames : List String :=
  ["--ticket", "-t", "--roles", "-r", "--group", "-g", "--watch", "-w", "--help", "-h"]

def IsDashed (argument : String) : Prop :=
  argument.toList.head? = some '-'

/-- What an argument is where an option may stand. -/
inductive ArgumentKind where
  | option (option : ValueOption)
  | watch
  | help
  | unknown
  | path
  deriving DecidableEq, Repr

/-- The argument is of the kind. Everything dashed is an option, and may be unknown. -/
inductive Means : String → ArgumentKind → Prop where
  | long (option : ValueOption) : Means option.longName (.option option)
  | short (option : ValueOption) : Means option.shortName (.option option)
  | watch : Means "--watch" .watch
  | shortWatch : Means "-w" .watch
  | help : Means "--help" .help
  | shortHelp : Means "-h" .help
  | unknown {argument : String} (dashed : IsDashed argument)
      (notKnown : argument ∉ knownNames) : Means argument .unknown
  | path {argument : String} (plain : ¬IsDashed argument) : Means argument .path

/-- One item of a command line. -/
inductive Item where
  | value (option : ValueOption) (value : String)
  | watch
  | config (path : String)
  deriving DecidableEq, Repr

/-- How the reading of arguments ends. -/
inductive Ending where
  | complete
  | help
  /-- The option at the end has no value. -/
  | dangling (option : ValueOption)
  | unknown (argument : String)
  deriving DecidableEq, Repr

/-- The arguments are read as the items, up to the ending. -/
inductive Reads : List String → List Item → Ending → Prop where
  | nil : Reads [] [] .complete
  | value {argument value : String} {option : ValueOption} {rest : List String}
      {items : List Item} {ending : Ending} (means : Means argument (.option option))
      (tail : Reads rest items ending) :
      Reads (argument :: value :: rest) (.value option value :: items) ending
  | dangling {argument : String} {option : ValueOption} (means : Means argument (.option option)) :
      Reads [argument] [] (.dangling option)
  | watch {argument : String} {rest : List String} {items : List Item} {ending : Ending}
      (means : Means argument .watch) (tail : Reads rest items ending) :
      Reads (argument :: rest) (.watch :: items) ending
  | help {argument : String} {rest : List String} (means : Means argument .help) :
      Reads (argument :: rest) [] .help
  | unknown {argument : String} {rest : List String} (means : Means argument .unknown) :
      Reads (argument :: rest) [] (.unknown argument)
  | path {argument : String} {rest : List String} {items : List Item} {ending : Ending}
      (means : Means argument .path) (tail : Reads rest items ending) :
      Reads (argument :: rest) (.config argument :: items) ending

/-- What one item does to the options. Of several values the last counts, but all groups do, and
there is one path. -/
def Options.add (options : Options) : Item → Except UsageError Options
  | .value .ticket path => .ok { options with ticket := some path }
  | .value .roles names => .ok { options with roles := splitRoles names }
  | .value .group name => .ok { options with groups := options.groups ++ [name] }
  | .watch => .ok { options with watch := true }
  | .config path =>
    if options.config.isSome then .error (.unexpectedArgument path)
    else .ok { options with config := some path }

def Ending.conclude (ending : Ending) (options : Options) : Except UsageError Request :=
  match ending with
  | complete => .ok (.check options)
  | help => .ok .help
  | dangling option => .error (.missingValue option.longName)
  | unknown argument => .error (.unknownArgument argument)

section Reading

theorem isDashed_of_mem_knownNames {argument : String} (known : argument ∈ knownNames) :
    IsDashed argument := by
  have allDashed : ∀ name ∈ knownNames, name.toList.head? = some '-' := by decide
  exact allDashed argument known

theorem exists_means (argument : String) : ∃ kind, Means argument kind := by
  by_cases known : argument ∈ knownNames
  · simp only [knownNames, List.mem_cons, List.not_mem_nil, or_false] at known
    rcases known with rfl | rfl | rfl | rfl | rfl | rfl | rfl | rfl | rfl | rfl
    · exact ⟨_, .long .ticket⟩
    · exact ⟨_, .short .ticket⟩
    · exact ⟨_, .long .roles⟩
    · exact ⟨_, .short .roles⟩
    · exact ⟨_, .long .group⟩
    · exact ⟨_, .short .group⟩
    · exact ⟨_, .watch⟩
    · exact ⟨_, .shortWatch⟩
    · exact ⟨_, .help⟩
    · exact ⟨_, .shortHelp⟩
  · rcases Classical.em (IsDashed argument) with dashed | plain
    · exact ⟨_, .unknown dashed known⟩
    · exact ⟨_, .path plain⟩

/-- All arguments can be read. -/
theorem exists_reads : (arguments : List String) → ∃ items ending, Reads arguments items ending
  | [] => ⟨_, _, .nil⟩
  | argument :: rest => by
      rcases exists_means argument with ⟨kind, means⟩
      cases kind with
      | option option =>
          match rest with
          | [] => exact ⟨_, _, .dangling means⟩
          | value :: rest =>
              rcases exists_reads rest with ⟨items, ending, tail⟩
              exact ⟨_, _, .value means tail⟩
      | watch =>
          rcases exists_reads rest with ⟨items, ending, tail⟩
          exact ⟨_, _, .watch means tail⟩
      | help => exact ⟨_, _, .help means⟩
      | unknown => exact ⟨_, _, .unknown means⟩
      | path =>
          rcases exists_reads rest with ⟨items, ending, tail⟩
          exact ⟨_, _, .path means tail⟩

end Reading

section Parsing

variable {options : Options} {argument : String} {rest : List String}

/-- An option takes the argument behind it, whatever that looks like. -/
theorem parse_of_option {option : ValueOption} {value : String}
    (means : Means argument (.option option)) :
    parse options (argument :: value :: rest) =
      options.add (.value option value) >>= fun options => parse options rest := by
  rw [parse.eq_def]
  cases means <;> cases option <;> rfl

theorem parse_of_dangling {option : ValueOption} (means : Means argument (.option option)) :
    parse options [argument] = .error (.missingValue option.longName) := by
  rw [parse.eq_def]
  cases means <;> cases option <;> rfl

theorem parse_of_watch (means : Means argument .watch) :
    parse options (argument :: rest) =
      options.add .watch >>= fun options => parse options rest := by
  rw [parse.eq_def]
  cases means <;> rfl

theorem parse_of_help (means : Means argument .help) :
    parse options (argument :: rest) = .ok .help := by
  rw [parse.eq_def]
  cases means <;> rfl

/-- Any other argument is the path of the configuration, unless it begins with a dash. -/
theorem parse_of_not_known (notKnown : argument ∉ knownNames) :
    parse options (argument :: rest) =
      if argument.toList.head? = some '-' then .error (.unknownArgument argument)
      else options.add (.config argument) >>= fun options => parse options rest := by
  simp only [knownNames, List.mem_cons, List.not_mem_nil, or_false, not_or] at notKnown
  rw [parse.eq_def]
  simp only [notKnown, or_self, if_false, Options.add]
  split
  · rfl
  · split <;> rfl

/-- The parser takes the items of a reading one by one and then does what the ending says. -/
theorem parse_of_reads {arguments : List String} {items : List Item} {ending : Ending}
    (reads : Reads arguments items ending) (options : Options) :
    parse options arguments = items.foldlM Options.add options >>= ending.conclude := by
  induction reads generalizing options with
  | nil => rfl
  | value means tail ih => simp only [parse_of_option means, ih, List.foldlM_cons, bind_assoc]
  | dangling means => exact parse_of_dangling means
  | watch means tail ih => simp only [parse_of_watch means, ih, List.foldlM_cons, bind_assoc]
  | help means => exact parse_of_help means
  | unknown means =>
      cases means with
      | unknown dashed notKnown => exact (parse_of_not_known notKnown).trans (if_pos dashed)
  | path means tail ih =>
      cases means with
      | path plain =>
          rw [parse_of_not_known (mt isDashed_of_mem_knownNames plain)]
          refine (if_neg plain).trans ?_
          simp only [ih, List.foldlM_cons, bind_assoc]

end Parsing

section Items

/-- The path that an item gives for the configuration. -/
def Item.config? : Item → Option String
  | config path => some path
  | _ => none

/-- The path that an item gives for the ticket. -/
def Item.ticket? : Item → Option String
  | value .ticket path => some path
  | _ => none

/-- An item is added, or is one path too many; no other item is refused. -/
theorem add_cases (options : Options) (item : Item) :
    (∃ next, options.add item = .ok next ∧
      next.config.toList = options.config.toList ++ item.config?.toList ∧
      next.ticket = item.ticket?.or options.ticket) ∨
    (2 ≤ (options.config.toList ++ item.config?.toList).length ∧
      ∃ error, options.add item = .error error) := by
  cases item with
  | value option value => cases option <;> exact .inl ⟨_, rfl, by simp [Item.config?], rfl⟩
  | watch => exact .inl ⟨_, rfl, by simp [Item.config?], rfl⟩
  | config path =>
      rcases options with ⟨config, ticket, roles, groups, watch⟩
      cases config with
      | none => exact .inl ⟨_, rfl, rfl, rfl⟩
      | some earlier => exact .inr ⟨Nat.le_refl 2, _, rfl⟩

/-- Items can be taken unless they give two paths. -/
theorem foldlM_add_cases (items : List Item) (options : Options) :
    (∃ result, items.foldlM Options.add options = .ok result ∧
      result.config.toList = options.config.toList ++ items.filterMap Item.config? ∧
      result.ticket = (items.filterMap Item.ticket?).getLast?.or options.ticket) ∨
    (2 ≤ (options.config.toList ++ items.filterMap Item.config?).length ∧
      ∃ error, items.foldlM Options.add options = .error error) := by
  induction items generalizing options with
  | nil => exact .inl ⟨options, rfl, by simp, rfl⟩
  | cons item rest ih =>
      have paths : (item :: rest).filterMap Item.config? =
          item.config?.toList ++ rest.filterMap Item.config? := by
        cases given : item.config? <;> simp [given]
      rw [List.foldlM_cons, paths, ← List.append_assoc]
      rcases add_cases options item with
        ⟨next, added, config, ticket⟩ | ⟨several, error, failed⟩
      · rw [added, ← config]
        rcases ih next with ⟨result, taken, resultConfig, resultTicket⟩ | refused
        · refine .inl ⟨result, taken, resultConfig, ?_⟩
          rw [resultTicket, ticket]
          cases given : item.ticket? with
          | none => simp [given]
          | some path => simp [given, List.getLast?_cons]
        · exact .inr refused
      · rw [failed]
        refine .inr ⟨?_, error, rfl⟩
        rw [List.length_append]
        exact Nat.le_add_right_of_le several

/-- The arguments can be read to the end, and ask to check one configuration. Of several tickets
the last is meant. -/
def Requests (arguments : List String) (config : String) (ticket : Option String) : Prop :=
  ∃ items, Reads arguments items .complete ∧ items.filterMap Item.config? = [config] ∧
    (items.filterMap Item.ticket?).getLast? = ticket

/-- The relation between arguments and paths is what the reading computes. -/
theorem requests_iff {arguments : List String} {config : String} {ticket : Option String} :
    Requests arguments config ticket ↔
      ∃ options, parse {} arguments = .ok (.check options) ∧ options.config = some config ∧
        options.ticket = ticket := by
  constructor
  · rintro ⟨items, reads, onePath, lastTicket⟩
    rcases foldlM_add_cases items {} with
      ⟨options, taken, configOf, ticketOf⟩ | ⟨several, _⟩
    · refine ⟨options, ?_, ?_, ?_⟩
      · rw [parse_of_reads reads, taken]
        rfl
      · rw [onePath] at configOf
        exact Option.toList_eq_singleton_iff.mp configOf
      · rw [ticketOf, lastTicket]
        exact Option.or_none
    · rw [onePath] at several
      exact absurd several (Nat.not_succ_le_self 1)
  · rintro ⟨options, parsed, configOf, rfl⟩
    rcases exists_reads arguments with ⟨items, ending, reads⟩
    rw [parse_of_reads reads] at parsed
    rcases foldlM_add_cases items {} with ⟨result, taken, paths, tickets⟩ | ⟨_, error, failed⟩
    · rw [taken] at parsed
      cases ending with
      | complete =>
          cases parsed
          rw [configOf] at paths
          exact ⟨items, reads, paths.symm, (tickets.trans Option.or_none).symm⟩
      | help | dangling option | unknown argument => cases parsed
    · rw [failed] at parsed
      cases parsed

end Items

section Indifference

/-- The item bears on whether the check succeeds: it names neither roles nor a group. -/
def Item.counts : Item → Bool
  | value .roles _ | value .group _ => false
  | _ => true

/-- The options without the roles and groups, which are for display. -/
def Options.core (options : Options) : Options :=
  { options with roles := [], groups := [] }

def Request.core : Request → Request
  | help => help
  | check options => check options.core

/-- Roles and groups add nothing that the status depends on. -/
theorem core_add (options : Options) (item : Item) :
    (options.add item).map Options.core =
      if item.counts then options.core.add item else .ok options.core := by
  rcases options with ⟨config, ticket, roles, groups, watch⟩
  cases item with
  | value option value => cases option <;> rfl
  | watch => rfl
  | config path => cases config <;> rfl

theorem core_foldlM_add (items : List Item) (options : Options) :
    (items.foldlM Options.add options).map Options.core =
      (items.filter Item.counts).foldlM Options.add options.core := by
  induction items generalizing options with
  | nil => rfl
  | cons item rest ih =>
      have step := core_add options item
      rw [List.foldlM_cons]
      cases counts : item.counts with
      | true =>
          rw [counts, if_pos rfl] at step
          rw [List.filter_cons_of_pos counts, List.foldlM_cons, ← step]
          cases options.add item with
          | error error => rfl
          | ok next => exact ih next
      | false =>
          rw [counts, if_neg Bool.false_ne_true] at step
          rw [List.filter_cons_of_neg (by simp [counts])]
          cases added : options.add item with
          | error error =>
              rw [added] at step
              cases step
          | ok next =>
              rw [added] at step
              rw [← Except.ok.inj step]
              exact ih next

/-- Up to roles and groups, the parser goes by the other items. -/
theorem core_parse_of_reads {arguments : List String} {items : List Item} {ending : Ending}
    (reads : Reads arguments items ending) :
    (parse {} arguments).map Request.core =
      (items.filter Item.counts).foldlM Options.add {} >>= ending.conclude := by
  have taken : (items.foldlM Options.add {}).map Options.core =
      (items.filter Item.counts).foldlM Options.add {} := core_foldlM_add items {}
  rw [parse_of_reads reads, ← taken]
  cases items.foldlM Options.add {} with
  | error error => rfl
  | ok options => cases ending <;> rfl

end Indifference

end WorkflowGuard.Check
