import WorkflowGuard.Proofs.Check.Arguments
import WorkflowGuard.Proofs.Engine.Decisions
import WorkflowGuard.Proofs.Registry.Contents

/-!
# The status of a check

A check that runs once is a gate: its status tells whether the check could be made, and whether
every rule of the configuration compiles. This file says what that takes, of the arguments, of
the files and of the rules, and shows that the status tells it exactly.

Three things can go wrong on the way, the reading of the arguments, the start of an engine on
the configuration, and the reading of a ticket. The argument follows the check from its end: a
ticket decides whether the report is complete, the configuration whether there is a report, and
the arguments which files these are. What the report shows does not matter, so neither do the
roles and the groups that are asked for.
-/

namespace WorkflowGuard

/-- All rules of the document can be compiled. -/
def Document.Compiles (document : Document) : Prop :=
  ∀ place key conditions, document.ruleAt? place = some (key, conditions) →
    ∃ predicate, Predicate.compile? conditions = .ok predicate

/-- Either all rules compile and none is counted, or some rule is rejected and counted. -/
theorem Document.compiles_or_rejectedAt (document : Document) :
    document.Compiles ∧ document.rejectedRules.length = 0 ∨
      (∃ place, document.RejectedAt place) ∧ document.rejectedRules.length ≠ 0 := by
  rw [← length_rejectedPlaces]
  cases rejected : document.rejectedPlaces with
  | nil =>
      refine .inl ⟨?_, rfl⟩
      intro place key conditions present
      cases compiled : Predicate.compile? conditions with
      | ok predicate => exact ⟨predicate, rfl⟩
      | error error =>
          have member := mem_rejectedPlaces_iff.mpr ⟨key, conditions, error, present, compiled⟩
          rw [rejected] at member
          cases member
  | cons place rest =>
      refine .inr ⟨⟨place, ?_⟩, Nat.succ_ne_zero _⟩
      rw [← mem_rejectedPlaces_iff, rejected]
      exact List.mem_cons_self

theorem Document.Compiles.not_rejectedAt {document : Document} (compiles : document.Compiles)
    (place : RulePlace) : ¬document.RejectedAt place := by
  rintro ⟨key, conditions, error, present, failed⟩
  rcases compiles place key conditions present with ⟨predicate, compiled⟩
  rw [failed] at compiled
  cases compiled

theorem Engine.value_start_of_unreadable {source : Source} {error : SourceError}
    (unreadable : source.contents = .error error) :
    (start source).value = .error (.source error) := by
  rw [start, unreadable]
  rfl

theorem Engine.value_start_of_refused {source : Source} {bytes : Bytes} {error : DocumentError}
    (contents : source.contents = .ok bytes)
    (refused : (Document.load bytes).value = .error error) :
    (start source).value = .error (.document error) := by
  rw [start, contents]
  simp only [Logged.value_bind, Logged.value_pure]
  rw [Coordinator.reloadBytes, Coordinator.value_loadAs, refused]
  rfl

namespace Check

/-- The arguments ask neither for help nor to keep watching. -/
structure AsksOnce (arguments : List String) : Prop where
  notHelp : parse {} arguments ≠ .ok .help
  notWatch : ∀ options, parse {} arguments = .ok (.check options) → options.watch = false

namespace World

variable (world : World)

/-- The file at the path can be read and spells the document, which is accepted. -/
def Configures (path : String) (document : Document) : Prop :=
  ∃ modified bytes, world.file path = .ok (modified, bytes) ∧
    (Document.load bytes).value = .ok document

/-- The file at the path can be read, is UTF-8 and spells a ticket. -/
def HoldsTicket (path : String) : Prop :=
  ∃ modified bytes text ticket, world.file path = .ok (modified, bytes) ∧
    Text.ofUtf8? bytes = some text ∧
    (Json.Node.read? bytes).bind (Ticket.ofNode? world.fresh Json.maxDepth) = some ticket

variable {world}

theorem Configures.unique {path : String} {left right : Document}
    (first : world.Configures path left) (second : world.Configures path right) :
    left = right := by
  rcases first with ⟨modified, bytes, found, loaded⟩
  rcases second with ⟨modified', bytes', found', loaded'⟩
  cases found.symm.trans found'
  exact Except.ok.inj (loaded.symm.trans loaded')

theorem ticket_cases (world : World) (path : String) :
    (world.HoldsTicket path ∧ ∃ ticket, world.ticket path = .ok ticket) ∨
      (¬world.HoldsTicket path ∧ ∃ reason, world.ticket path = .error reason) := by
  rw [World.ticket]
  cases found : world.file path with
  | error reason =>
      refine .inr ⟨?_, _, rfl⟩
      rintro ⟨_, _, _, _, found', _⟩
      cases found.symm.trans found'
  | ok file =>
      rcases file with ⟨modified, bytes⟩
      cases decoded : Text.ofUtf8? bytes with
      | none =>
          refine .inr ⟨?_, _, by simp only [decoded]; rfl⟩
          rintro ⟨_, _, _, _, found', decoded', _⟩
          cases found.symm.trans found'
          cases decoded.symm.trans decoded'
      | some text =>
          cases spelled : (Json.Node.read? bytes).bind
              (Ticket.ofNode? world.fresh Json.maxDepth) with
          | none =>
              refine .inr ⟨?_, _, by simp only [decoded, spelled]; rfl⟩
              rintro ⟨_, _, _, _, found', _, spelled'⟩
              cases found.symm.trans found'
              cases spelled.symm.trans spelled'
          | some ticket =>
              exact .inl ⟨⟨modified, bytes, text, ticket, found, decoded, spelled⟩, ticket,
                by simp only [decoded, spelled]⟩

/-- The engine starts on the file at the path just if the file configures it. -/
theorem start_cases (world : World) (path : String) :
    (∃ document engine, world.Configures path document ∧
      (Engine.start (world.source path)).value = .ok engine ∧
      engine.registry.stats.failedRules = document.rejectedRules.length) ∨
    ((∀ document, ¬world.Configures path document) ∧
      ∃ error, (Engine.start (world.source path)).value = .error error) := by
  cases found : world.file path with
  | error reason =>
      have contents : (world.source path).contents = .error (.io path reason) := by
        simp only [World.source, found, Source.ofUnreadableFile]
      refine .inr ⟨?_, _, Engine.value_start_of_unreadable contents⟩
      rintro document ⟨_, _, found', _⟩
      cases found.symm.trans found'
  | ok file =>
      rcases file with ⟨modified, bytes⟩
      have contents : (world.source path).contents = .ok bytes := by
        simp only [World.source, found, Source.ofFile]
      cases loaded : (Document.load bytes).value with
      | ok document =>
          exact .inl ⟨document, _, ⟨modified, bytes, found, loaded⟩,
            Engine.value_start contents loaded,
            congrArg Stats.failedRules
              (Registry.stats_build document (Fingerprint.ofBytes bytes))⟩
      | error error =>
          refine .inr ⟨?_, _, Engine.value_start_of_refused contents loaded⟩
          rintro document ⟨_, _, found', loaded'⟩
          cases found.symm.trans found'
          cases loaded.symm.trans loaded'

end World

/-- The options give a configuration that is accepted as the document, and their ticket, if there
is one, can be read. -/
def Options.Accepts (world : World) (options : Options) (document : Document) : Prop :=
  ∃ config, options.config = some config ∧ world.Configures config document ∧
    ∀ path, options.ticket = some path → world.HoldsTicket path

/-- The check that the arguments ask for can be made, and it is of the document. -/
def Accepts (world : World) (arguments : List String) (document : Document) : Prop :=
  ∃ config ticket, Requests arguments config ticket ∧ world.Configures config document ∧
    ∀ path, ticket = some path → world.HoldsTicket path

theorem accepts_iff {world : World} {arguments : List String} {document : Document} :
    Accepts world arguments document ↔
      ∃ options, parse {} arguments = .ok (.check options) ∧ options.Accepts world document := by
  constructor
  · rintro ⟨config, ticket, requests, configures, readable⟩
    rcases requests_iff.mp requests with ⟨options, parsed, configOf, ticketOf⟩
    subst ticketOf
    exact ⟨options, parsed, config, configOf, configures, readable⟩
  · rintro ⟨options, parsed, config, configOf, configures, readable⟩
    exact ⟨config, options.ticket, requests_iff.mpr ⟨options, parsed, configOf, rfl⟩, configures,
      readable⟩

theorem Accepts.unique {world : World} {arguments : List String} {left right : Document}
    (first : Accepts world arguments left) (second : Accepts world arguments right) :
    left = right := by
  rcases accepts_iff.mp first with ⟨options, parsed, config, configOf, configures, _⟩
  rcases accepts_iff.mp second with ⟨options', parsed', config', configOf', configures', _⟩
  cases parsed.symm.trans parsed'
  cases configOf.symm.trans configOf'
  exact configures.unique configures'

/-- The status that a check should have, given which document it accepts, if any. -/
inductive Deserves (accepts : Document → Prop) : Nat → Prop where
  | clean {document : Document} (accepted : accepts document) (compiles : document.Compiles) :
      Deserves accepts 0
  | broken {document : Document} {place : RulePlace} (accepted : accepts document)
      (rejected : document.RejectedAt place) : Deserves accepts 1
  | failed (refused : ∀ document, ¬accepts document) : Deserves accepts 2

theorem Deserves.unique {accepts : Document → Prop} {status other : Nat}
    (first : Deserves accepts status)
    (unique : ∀ {left right}, accepts left → accepts right → left = right)
    (second : Deserves accepts other) : status = other := by
  cases first with
  | clean accepted compiles =>
      cases second with
      | clean => rfl
      | broken accepted' rejected =>
          cases unique accepted accepted'
          exact absurd rejected (compiles.not_rejectedAt _)
      | failed refused => exact absurd accepted (refused _)
  | broken accepted rejected =>
      cases second with
      | clean accepted' compiles =>
          cases unique accepted accepted'
          exact absurd rejected (compiles.not_rejectedAt _)
      | broken => rfl
      | failed refused => exact absurd accepted (refused _)
  | failed refused =>
      cases second with
      | clean accepted => exact absurd accepted (refused _)
      | broken accepted => exact absurd accepted (refused _)
      | failed => rfl

/-- A report is complete if the ticket, when one is asked for, can be read. -/
theorem report_cases (world : World) (options : Options) (registry : Registry)
    (source : Source) :
    (∃ lines, report world options registry source = (lines, none) ∧
      ∀ path, options.ticket = some path → world.HoldsTicket path) ∨
    (∃ lines reason path, report world options registry source = (lines, some reason) ∧
      options.ticket = some path ∧ ¬world.HoldsTicket path) := by
  simp only [report]
  cases asked : options.ticket with
  | none => exact .inl ⟨_, rfl, nofun⟩
  | some path =>
      rcases world.ticket_cases path with ⟨holds, ticket, read⟩ | ⟨lacks, reason, failed⟩
      · left
        simp only [read]
        refine ⟨_, rfl, ?_⟩
        rintro other ⟨⟩
        exact holds
      · right
        simp only [failed]
        exact ⟨_, _, path, rfl, rfl, lacks⟩

/-- A run ends with the status that it deserves. -/
theorem run_deserves (world : World) (options : Options) :
    Deserves (options.Accepts world) (run world options).status := by
  simp only [run]
  cases asked : options.config with
  | none =>
      apply Deserves.failed
      rintro document ⟨config, asked', _⟩
      cases asked.symm.trans asked'
  | some path =>
      rcases world.start_cases path with
        ⟨document, engine, configures, started, failedRules⟩ | ⟨unconfigured, error, failed⟩
      · simp only [started]
        rcases report_cases world options engine.registry (world.source path) with
          ⟨lines, reported, readable⟩ | ⟨lines, reason, ticket, reported, given, lacks⟩
        · simp only [reported, failedRules]
          have accepted : options.Accepts world document := ⟨path, asked, configures, readable⟩
          rcases document.compiles_or_rejectedAt with
            ⟨compiles, none⟩ | ⟨⟨place, rejected⟩, some⟩
          · rw [if_pos none]
            exact .clean accepted compiles
          · rw [if_neg some]
            exact .broken accepted rejected
        · simp only [reported]
          apply Deserves.failed
          rintro other ⟨_, _, _, readable⟩
          exact lacks (readable ticket given)
      · simp only [failed]
        apply Deserves.failed
        rintro document ⟨config, asked', configures, _⟩
        cases asked.symm.trans asked'
        exact unconfigured document configures

/-- A check that is made once has the status it should have. -/
theorem respond_deserves (world : World) {words : List String} (once : AsksOnce words.tail) :
    Deserves (Accepts world words.tail) (respond world words).status := by
  rw [respond]
  cases parsed : parse {} words.tail with
  | error error =>
      apply Deserves.failed
      intro document accepted
      rcases accepts_iff.mp accepted with ⟨options, parsed', _⟩
      cases parsed.symm.trans parsed'
  | ok request =>
      cases request with
      | help => exact absurd parsed once.notHelp
      | check options =>
          have same : Accepts world words.tail = options.Accepts world := by
            funext document
            rw [accepts_iff, parsed]
            simp
          rw [same]
          exact run_deserves world options

/-- The status of a run does not depend on the roles and groups. -/
theorem status_run_core (world : World) (options : Options) :
    (run world options.core).status = (run world options).status := by
  simp only [run, report, Options.core]
  cases options.config with
  | none => rfl
  | some path =>
      dsimp only
      cases (Engine.start (world.source path)).value with
      | error error => rfl
      | ok engine =>
          cases options.ticket with
          | none => rfl
          | some ticket =>
              dsimp only
              cases world.ticket ticket <;> rfl

theorem status_respond_eq_of_core {world : World} {left right : List String}
    (same : (parse {} left.tail).map Request.core = (parse {} right.tail).map Request.core) :
    (respond world left).status = (respond world right).status := by
  rw [respond, respond]
  cases ofLeft : parse {} left.tail with
  | error error =>
      cases ofRight : parse {} right.tail with
      | error other => rfl
      | ok request => simp [ofLeft, ofRight, Except.map] at same
  | ok request =>
      cases ofRight : parse {} right.tail with
      | error other => simp [ofLeft, ofRight, Except.map] at same
      | ok other =>
          simp only [ofLeft, ofRight, Except.map, Except.ok.injEq] at same
          cases request with
          | help =>
              cases other with
              | help => rfl
              | check options => cases same
          | check options =>
              cases other with
              | help => cases same
              | check others =>
                  have sameCore : options.core = others.core := Request.check.inj same
                  dsimp only
                  rw [← status_run_core world options, sameCore, status_run_core]

/-- The arguments are texts, and these are the words. -/
def Spells (arguments : List Bytes) (words : List String) : Prop :=
  arguments = words.map Text.utf8

theorem words?_eq_some_iff {arguments : List Bytes} {words : List String} :
    words? arguments = some words ↔ Spells arguments words := by
  rw [words?, Spells]
  induction arguments generalizing words with
  | nil => cases words <;> simp
  | cons argument rest ih =>
      cases words with
      | nil => simp [Option.bind_eq_some_iff]
      | cons word others =>
          simp only [List.mapM_cons, Option.bind_eq_bind, Option.bind_eq_some_iff,
            Text.ofUtf8?_eq_some_iff, ih, Option.pure_def, Option.some.injEq, List.cons.injEq,
            List.map_cons]
          constructor
          · rintro ⟨_, spelled, _, spells, rfl, rfl⟩
            exact ⟨spelled.symm, spells⟩
          · rintro ⟨rfl, spells⟩
            exact ⟨word, rfl, others, spells, rfl, rfl⟩

theorem Spells.unique {arguments : List Bytes} {words others : List String}
    (spells : Spells arguments words) (spellsToo : Spells arguments others) : words = others :=
  Option.some.inj ((words?_eq_some_iff.mpr spells).symm.trans (words?_eq_some_iff.mpr spellsToo))

theorem answer_of_spells (world : World) {arguments : List Bytes} {words : List String}
    (spells : Spells arguments words) : answer world arguments = respond world words := by
  rw [answer, words?_eq_some_iff.mpr spells]

/-- Arguments that are not text abort the command. -/
theorem status_of_not_spells (world : World) {arguments : List Bytes}
    (notText : ¬∃ words, Spells arguments words) : (answer world arguments).status = 101 := by
  rw [answer]
  cases decoded : words? arguments with
  | none => rfl
  | some words => exact absurd ⟨words, words?_eq_some_iff.mp decoded⟩ notText

/-- The status tells exactly whether the check could be made, and whether all rules compile. -/
structure Gates (world : World) (arguments : List Bytes) : Prop where
  clean : (answer world arguments).status = 0 ↔
    ∃ words document, Spells arguments words ∧ Accepts world words.tail document ∧
      document.Compiles
  broken : (answer world arguments).status = 1 ↔
    ∃ words document, Spells arguments words ∧ Accepts world words.tail document ∧
      ∃ place, document.RejectedAt place
  failed : (answer world arguments).status = 2 ↔
    ∃ words, Spells arguments words ∧ ¬∃ document, Accepts world words.tail document
  aborted : (answer world arguments).status = 101 ↔ ¬∃ words, Spells arguments words
  /-- There is no other status. -/
  bounded : (answer world arguments).status ∈ [0, 1, 2, 101]
  read : ∀ words, Spells arguments words → ∃ items ending, Reads words.tail items ending
  /-- The roles and groups given do not matter. -/
  indifferent : ∀ words items ending, Spells arguments words → Reads words.tail items ending →
    ∀ others otherWords otherItems, Spells others otherWords →
      Reads otherWords.tail otherItems ending →
      otherItems.filter Item.counts = items.filter Item.counts →
        (answer world others).status = (answer world arguments).status

/-- With an argument that is no text, nothing is read and the status is that of an abort. -/
theorem gates_of_not_spells (world : World) {arguments : List Bytes}
    (notText : ¬∃ words, Spells arguments words) : Gates world arguments := by
  have aborted := status_of_not_spells world notText
  constructor
  case clean => simp [aborted, not_exists.mp notText]
  case broken => simp [aborted, not_exists.mp notText]
  case failed => simp [aborted, not_exists.mp notText]
  case aborted => simp [aborted, notText]
  case bounded => simp [aborted]
  case read =>
    intro words spells
    exact absurd ⟨words, spells⟩ notText
  case indifferent =>
    intro words items ending spells
    exact absurd ⟨words, spells⟩ notText

/-- With arguments that are text, the status is the one the run deserves. -/
theorem gates_of_spells (world : World) {arguments : List Bytes} {words : List String}
    (spells : Spells arguments words) (once : AsksOnce words.tail) : Gates world arguments := by
  have deserved := respond_deserves world once
  rw [← answer_of_spells world spells] at deserved
  -- A status is deserved in one way only, so each of them can be read in both directions.
  constructor
  case clean =>
    constructor
    · intro status
      rw [status] at deserved
      cases deserved with
      | clean accepted compiles => exact ⟨words, _, spells, accepted, compiles⟩
    · rintro ⟨_, document, spellsToo, accepted, compiles⟩
      cases spells.unique spellsToo
      exact deserved.unique Accepts.unique (.clean accepted compiles)
  case broken =>
    constructor
    · intro status
      rw [status] at deserved
      cases deserved with
      | broken accepted rejected => exact ⟨words, _, spells, accepted, _, rejected⟩
    · rintro ⟨_, document, spellsToo, accepted, place, rejected⟩
      cases spells.unique spellsToo
      exact deserved.unique Accepts.unique (.broken accepted rejected)
  case failed =>
    constructor
    · intro status
      rw [status] at deserved
      cases deserved with
      | failed refused => exact ⟨words, spells, not_exists.mpr refused⟩
    · rintro ⟨_, spellsToo, refused⟩
      cases spells.unique spellsToo
      exact deserved.unique Accepts.unique (.failed (not_exists.mp refused))
  case aborted =>
    refine ⟨?_, fun notText => absurd ⟨words, spells⟩ notText⟩
    intro status
    rw [status] at deserved
    cases deserved
  case bounded =>
    generalize (answer world arguments).status = status at deserved
    cases deserved <;> decide
  case read =>
    intro _ _
    exact exists_reads _
  case indifferent =>
    intro _ items ending spellsToo reads others otherWords otherItems spellsOthers readsOthers
      sameItems
    rw [answer_of_spells world spellsOthers, answer_of_spells world spellsToo]
    apply status_respond_eq_of_core
    rw [core_parse_of_reads readsOthers, core_parse_of_reads reads, sameItems]

/-- The status of a check that neither shows the help nor keeps watching is a gate on the
configuration, and arguments that are not text are told apart from all that. -/
theorem answer_gates (world : World) {arguments : List Bytes}
    (once : ∀ words, Spells arguments words → AsksOnce words.tail) : Gates world arguments := by
  by_cases text : ∃ words, Spells arguments words
  · rcases text with ⟨words, spells⟩
    exact gates_of_spells world spells (once words spells)
  · exact gates_of_not_spells world text

/-- The text of a configuration with two rules, the second of one condition. -/
def sampleText (condition : String) : String :=
  "\x7b\"domains\":\x7b\"it\":\x7b\"workflow\":\x7b\"Open\":[\"Closed\",\"Held\"]\x7d," ++
    "\"transitions\":[\x7b\"from\":\"Open\",\"to\":\"Closed\"," ++
    "\"conditions\":[\x7b\"role\":\"Admin\"\x7d]\x7d,\x7b\"from\":\"Open\",\"to\":\"Held\"," ++
    "\"conditions\":[" ++ condition ++ "]\x7d]\x7d\x7d\x7d"

/-- The text of a ticket. -/
def sampleTicket : String :=
  "\x7b\"domain\":\"it\",\"status\":\"Open\",\"created_at\":\"2026-01-01T00:00:00Z\"\x7d"

/-- There are a ticket, a configuration whose rules can be compiled, and one with a condition that
has neither a role nor a field. -/
def sampleWorld : World where
  file path :=
    if path = "ticket.json" then .ok (none, Text.utf8 sampleTicket)
    else if path = "clean.json" then
      .ok (none, Text.utf8 (sampleText "\x7b\"role\":\"Agent\"\x7d"))
    else if path = "broken.json" then .ok (none, Text.utf8 (sampleText "\x7b\x7d"))
    else .error "No such file or directory (os error 2)"
  now := ⟨0, 0⟩
  fresh := .nil

/-- The command line of a check of a configuration with a ticket. -/
def sampleWords (config : String) : List String :=
  ["rules-check", "-t", "ticket.json", "-g", "escalation", config]

theorem answer_gates_sample :
    (∀ words, Spells ((sampleWords "broken.json").map Text.utf8) words → AsksOnce words.tail) ∧
      Gates sampleWorld ((sampleWords "broken.json").map Text.utf8) ∧
      (answer sampleWorld ((sampleWords "broken.json").map Text.utf8)).status = 1 ∧
      (answer sampleWorld ((sampleWords "clean.json").map Text.utf8)).status = 0 := by
  have once : ∀ words, Spells ((sampleWords "broken.json").map Text.utf8) words →
      AsksOnce words.tail := by
    intro words spells
    have parsed : parse {} (sampleWords "broken.json").tail =
        .ok (.check
          { config := some "broken.json"
            ticket := some "ticket.json"
            groups := ["escalation"] }) := rfl
    have spelled : Spells ((sampleWords "broken.json").map Text.utf8)
        (sampleWords "broken.json") := rfl
    cases spelled.unique spells
    constructor
    · rw [parsed]
      exact nofun
    · intro options found
      cases parsed.symm.trans found
      rfl
  exact ⟨once, answer_gates sampleWorld once, by decide +kernel, by decide +kernel⟩

/-- The name of a file in Latin-1, which is not UTF-8. -/
def latinArguments : List Bytes :=
  [Text.utf8 "rules-check", Text.utf8 "r" ++ 0xE8 :: Text.utf8 "gles.json"]

/-- Two tickets are given, and there is no file for the first. -/
def twoTickets : List String :=
  ["rules-check", "-t", "absent.json", "-t", "ticket.json", "clean.json"]

/-- Neither command line asks for help or to keep watching, and still there is a status beyond the
three, and a ticket that cannot be read and does not matter. -/
theorem status_latinArguments_twoTickets :
    ((∀ words, Spells latinArguments words → AsksOnce words.tail) ∧
      (¬∃ words document, Spells latinArguments words ∧
        Accepts sampleWorld words.tail document) ∧
      (answer sampleWorld latinArguments).status = 101) ∧
    AsksOnce twoTickets.tail ∧ ¬sampleWorld.HoldsTicket "absent.json" ∧
      (answer sampleWorld (twoTickets.map Text.utf8)).status = 0 := by
  have notText : ∀ words, ¬Spells latinArguments words := by
    intro words spells
    have decoded : words? latinArguments = none := by decide +kernel
    rw [words?_eq_some_iff.mpr spells] at decoded
    cases decoded
  have parsed : parse {} twoTickets.tail =
      .ok (.check { config := some "clean.json", ticket := some "ticket.json" }) := rfl
  refine ⟨⟨fun words spells => absurd spells (notText words), ?_, ?_⟩, ⟨?_, ?_⟩, ?_, ?_⟩
  · rintro ⟨words, document, spells, _⟩
    exact notText words spells
  · exact status_of_not_spells sampleWorld (not_exists.mpr notText)
  · rw [parsed]
    exact nofun
  · intro options found
    cases parsed.symm.trans found
    rfl
  · rintro ⟨modified, bytes, text, ticket, found, _⟩
    cases found
  · decide +kernel

end Check

end WorkflowGuard
