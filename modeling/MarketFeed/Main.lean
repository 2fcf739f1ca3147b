import MarketFeed.Program
import Std.Time.Format

namespace MarketFeed.CommandLine

/-!
# The command line

* `perform` — runs an invocation on the file system and the environment of the process, and writes
  what comes of it to the log file and the output streams, with the time before each log entry.
* `main` — reads the arguments of the process.
-/

/-- How the program is called. -/
def usageText : String :=
  "Crypto market types, message types and websocket commands\n\n" ++
  "Usage: cmt [OPTIONS] <COMMAND>\n\n" ++
  "Commands:\n" ++
  "  market-types <EXCHANGE>\n" ++
  "  ws-commands --exchange <EXCHANGE> --msg-type <MSG_TYPES> --symbol <SYMBOLS>\n" ++
  "              [--unsubscribe] [--interval <INTERVAL>]\n" ++
  "  plan <CONFIG>\n" ++
  "  help\n\n" ++
  "Options:\n" ++
  "  -l, --log-level <LOG_LEVEL>  [default: info]\n" ++
  "      --log-dir <LOG_DIR>\n" ++
  "  -h, --help"

/-- Why a command line is refused. -/
def refusal (usage : Usage) : String :=
  match usage with
  | .help | .helpOnNothing => usageText
  | .unknownArgument => "error: unexpected argument"
  | .unknownCommand => "error: unrecognized subcommand"
  | .missingArgument => "error: a required argument was not provided"
  | .missingCommand => "error: a subcommand is required"
  | .conflict => "error: an argument cannot be used multiple times"
  | .invalidValue => "error: a value is required"
  | .tooManyValues => "error: unexpected value for an argument without a value"
  | .unreadableValue .. => usage.message?.getD "error: invalid value"

/-- Why a file could not be read. -/
def readError (path : String) (error : IO.Error) : IO ReadError := do
  if ← ((← IO.currentDir) / path).isDir then return .isDirectory
  match error with
  | .permissionDenied .. => return .denied
  | .inappropriateType .. => return .notDirectory
  | _ => return .notFound

/-- Loads the plan in a file. -/
def loadPlan (path : String) : IO (Except Plan.LoadError Plan) := do
  match ← (IO.FS.readBinFile path).toBaseIO with
  | .ok bytes => return Plan.ofBytes bytes
  | .error e => return .error (.unreadable (← readError path e))

/-- The plan that a command needs. -/
def neededPlan : Command → IO (Except Plan.LoadError Plan)
  | .plan path => loadPlan path
  | _ => return .error (.unreadable .notFound)

/-- Today's date and the time of day, in UTC. -/
def now : IO (String × String) := do
  let t ← Std.Time.Timestamp.now
  let moment := Std.Time.PlainDateTime.ofWallTime (t.toWallTime .zero)
  return (moment.date.toSQLDateString, moment.time.toTime24Hour)

/-- A log entry with the time in front, as a layer writes it. -/
def stamped (layer : Log.Layer) (time entry : String) : String := layer.dim time ++ " " ++ entry

/-- Appends entries to a log file, whose directory is made if it is missing. -/
def append (file : Log.LogFile) (date time : String) : IO Unit := do
  let path := (← IO.currentDir) / file.path date
  if let some directory := path.parent then
    IO.FS.createDirAll directory
  let handle ← IO.FS.Handle.mk path .append
  for entry in file.entries do
    handle.putStrLn (stamped .file time entry)

/-- What is said when the program ends while it reads a log filter. -/
def abortText : String := "a log filter was to be taken apart inside a character"

/-- Carries out a run. -/
def perform (inv : Invocation) : IO UInt32 := do
  let plan ← neededPlan inv.command
  let choice := Log.Filter.choose (← IO.getEnv "RUST_LOG") inv.logLevel
  let outcome := inv.runWith (fun _ => plan) choice
  let (date, clock) ← now
  let time := date ++ "T" ++ clock ++ "Z"
  for file in outcome.logFile? do
    append file date time
  (← IO.getStdout).putStr outcome.stdout
  for line in outcome.complaints do
    IO.eprintln line
  for entry in outcome.console do
    IO.eprintln (stamped .console time entry)
  for line in outcome.ending.lines { abort := [abortText] } do
    IO.eprintln line
  return outcome.exitCode.toUInt32

end MarketFeed.CommandLine

/-- Runs the program on the arguments of the process. -/
def main (arguments : List String) : IO UInt32 := do
  match MarketFeed.Invocation.ofArguments arguments with
  | .ok inv => MarketFeed.CommandLine.perform inv
  | .error usage =>
    let text := MarketFeed.CommandLine.refusal usage
    if usage.exitCode = 0 then IO.println text else IO.eprintln text
    return usage.exitCode.toUInt32
