import MarketFeed.Arguments
import MarketFeed.Log.Subscriber
import MarketFeed.Plan.Load

namespace MarketFeed

/-!
# Running a command line

* `Report` — what a command prints and logs, before the log is filtered.
* `marketTypesReport`, `Request.report` — the reports of listing market types and building commands.
* `Plan.Progress`, `Plan.report` — the run of a plan: an entry that fails is logged, counted and
  skipped.
* `Ending`, `Outcome` — how a run ends, and what can be seen of it.
* `Invocation.runWith`, `Invocation.run` — the run of a command line.  A plan that cannot be loaded
  ends the run before anything is logged, and so does a log filter whose reading ends the program.
-/

open Log

/-! ### Reports -/

/-- What a command prints, one line each, and what it logs. -/
structure Report where
  outputs : List String := []
  events : List Event := []
  deriving DecidableEq, Repr

/-- One report after another. -/
instance : Append Report where
  append r s := { outputs := r.outputs ++ s.outputs, events := r.events ++ s.events }

@[simp] theorem Report.outputs_append (r s : Report) :
    (r ++ s).outputs = r.outputs ++ s.outputs := rfl

@[simp] theorem Report.events_append (r s : Report) : (r ++ s).events = r.events ++ s.events := rfl

/-- The report of commands that were built. -/
def Built.report (b : Built) : Report where
  outputs := b.commands
  events := b.events

/-- An event of the program itself. -/
def programEvent (level : Level) (message : String) : Event where
  level := level
  target := "cmt"
  message := message

/-! ### Plans -/

/-- The report of one entry: its commands, or why it is skipped. -/
def Plan.Entry.report (entry : Plan.Entry) (index : Nat) : Report :=
  let place := "subscriptions[" ++ toString index ++ "]: "
  let name := entry.exchange ++ " " ++ entry.market.code
  match entry.build with
  | .ok b => b.report ++ {
      events := [programEvent .info
        (place ++ name ++ " -> " ++ toString b.commands.length ++ " command(s)")] }
  | .error e => {
      events := [programEvent .error (place ++ "skipped " ++ name ++ ": " ++ e.message)] }

/-- Reports that a plan was loaded. -/
def Plan.loadedEvent (p : Plan) (path : String) : Event :=
  programEvent .info ("plan '" ++ p.moduleName ++ "' loaded from " ++ path ++ ": "
    ++ toString p.entries.length ++ " subscription(s)")

/-- Where the run of a plan stands. -/
structure Plan.Progress where
  report : Report := {}
  /-- The entries taken so far. -/
  taken : Nat := 0
  /-- Those of them that failed. -/
  skipped : Nat := 0

/-- The run takes one more entry. -/
def Plan.Progress.take (s : Plan.Progress) (entry : Plan.Entry) : Plan.Progress where
  report := s.report ++ entry.report s.taken
  taken := s.taken + 1
  skipped := match entry.build with
    | .ok _ => s.skipped
    | .error _ => s.skipped + 1

/-- Reports how many entries were skipped, if any were. -/
def skippedEvents (skipped total : Nat) : List Event :=
  if 0 < skipped then
    [programEvent .warn (toString skipped ++ " of " ++ toString total ++ " subscription(s) skipped")]
  else []

/-- The report of a plan. -/
def Plan.report (p : Plan) (path : String) : Report :=
  let s := p.entries.foldl Plan.Progress.take { report := { events := [p.loadedEvent path] } }
  s.report ++ { events := skippedEvents s.skipped p.entries.length }

/-! ### Other commands -/

/-- The market types of an exchange, one line each. -/
def marketTypesReport (exchange : String) : Except Error Report := do
  let e ← Vocabulary.parse (α := Exchange) exchange
  return { outputs := e.marketTypes.map MarketType.code }

/-- The parameters that an interval option gives. -/
def Params.ofInterval (interval? : Option String) : Params :=
  Params.ofList (interval?.toList.map fun i => ("interval", i))

/-- The commands of a request. -/
def Request.report (r : Request) : Except Error Report := Built.report <$> r.build

/-! ### Outcomes -/

/-- Why a command cannot be carried out. -/
inductive Failure
  | error (error : Error)
  | load (error : Plan.LoadError)
  deriving DecidableEq, Repr

/-- The wording of a failure, with the position in a JSON text if that is what failed. -/
def Failure.text (position? : Option Json.Position) : Failure → String
  | .error e => e.message
  | .load e => e.message position?

/-- How a run ends. -/
inductive Ending
  | done
  | failed (failure : Failure)
  /-- The program ended in the middle of what it did. -/
  | aborted
  deriving DecidableEq, Repr

/-- The exit code of a run that ends so. -/
def Ending.exitCode : Ending → Nat
  | .done => 0
  | .failed _ => 1
  | .aborted => 101

/-- What is said of the end of a run beyond its reason. -/
structure Diagnostics where
  /-- Where a JSON text has its fault. -/
  position? : Option Json.Position := none
  /-- The lines about a program that ended in the middle of what it did. -/
  abort : List String := []

/-- The lines in which a run says how it ended. -/
def Ending.lines (d : Diagnostics) : Ending → List String
  | .done => []
  | .failed failure => Text.lines ("Error: " ++ failure.text d.position?)
  | .aborted => d.abort

/-- What can be seen of a run. -/
structure Outcome where
  ending : Ending
  stdout : String := ""
  /-- Complaints about the log filter. -/
  complaints : List String := []
  /-- The log events that pass the filter. -/
  events : List Event := []
  /-- The log entries on the error stream. -/
  console : List String := []
  logFile? : Option LogFile := none
  deriving DecidableEq, Repr

/-- The exit code of a run. -/
def Outcome.exitCode (o : Outcome) : Nat := o.ending.exitCode

/-- The lines of the error stream: complaints, then the log, then how the run ended. -/
def Outcome.stderr (o : Outcome) (d : Diagnostics) : List String :=
  o.complaints.flatMap Text.lines ++ o.console.flatMap Text.lines ++ o.ending.lines d

/-- Lines, each with its line feed. -/
def unlines (outputs : List String) : String :=
  outputs.foldr (fun line rest => line ++ "\n" ++ rest) ""

/-- Where a run logs to, and what. -/
structure Logging where
  choice : Filter.Choice
  directory? : Option String
  name : String

/-- The subscriber of a run before anything happens. -/
def Logging.subscriber (l : Logging) : Subscriber where
  filter := l.choice.filter
  file? := l.directory?.map fun directory => { directory, name := l.name }

/-- The outcome of a command that got as far as logging. -/
def Logging.outcome (l : Logging) (report : Except Error Report) : Outcome :=
  let (r, ending) : Report × Ending := match report with
    | .ok r => (r, .done)
    | .error e => ({}, .failed (.error e))
  let s := l.subscriber.run r.events
  { ending
    stdout := unlines r.outputs
    complaints := l.choice.complaints
    events := s.events
    console := s.console
    logFile? := s.file? }

/-- The outcome of a command whose log filter is chosen, or whose program ends there. -/
def outcomeWith (choice : Except Filter.Abort Filter.Choice) (directory? : Option String)
    (name : String) (report : Except Error Report) : Outcome :=
  match choice with
  | .ok choice => Logging.outcome { choice, directory?, name } report
  | .error abort => { ending := .aborted, complaints := abort.complaints }

/-- A filter that was read leads to a log. -/
@[simp] theorem outcomeWith_ok (choice : Filter.Choice) (directory? : Option String) (name : String)
    (report : Except Error Report) :
    outcomeWith (.ok choice) directory? name report =
      Logging.outcome { choice, directory?, name } report := rfl

/-! ### Runs -/

/-- The run of a command line, where `load` loads plans and `choice` is the log filter. -/
def Invocation.runWith (inv : Invocation) (load : String → Except Plan.LoadError Plan)
    (choice : Except Filter.Abort Filter.Choice) : Outcome :=
  match inv.command with
  | .marketTypes exchange =>
    outcomeWith choice inv.logDirectory? "cmt" (marketTypesReport exchange)
  | .wsCommands exchange messages symbols unsubscribe interval? =>
    let request : Request := {
      exchange
      selection := {
        messages, symbols
        subscribe := !unsubscribe
        params := Params.ofInterval interval? } }
    outcomeWith choice inv.logDirectory? "cmt" request.report
  | .plan path =>
    match load path with
    | .error e => { ending := .failed (.load e) }
    | .ok p => outcomeWith choice (p.logDirectory inv.logDirectory?) p.moduleName (.ok (p.report path))

/-- The run of a command line on some files, where `preferred?` is the log filter that wins over the
    one of the command line. -/
def Invocation.run (inv : Invocation) (files : Files) (preferred? : Option String) : Outcome :=
  inv.runWith (Plan.load files) (Filter.choose preferred? inv.logLevel)

/-- The run of a program with some arguments. -/
def run (arguments : List String) (files : Files) (preferred? : Option String) :
    Except Usage Outcome := do
  return (← Invocation.ofArguments arguments).run files preferred?

end MarketFeed
