import MarketFeed.Error
import MarketFeed.Text.Split
import MarketFeed.Text.Terminal

namespace MarketFeed

/-!
# Command lines that are not carried out

* `Usage` — why a command line is refused, or answered with help.
* `Usage.exitCode` — how the program ends.
* `Usage.notice?` — what a terminal is told about a value that cannot be read; `Usage.message?` is
  its first line, as it is kept.
-/

/-- Why a command line is not carried out. -/
inductive Usage
  /-- Help was asked for. -/
  | help
  /-- Nothing was given at all. -/
  | helpOnNothing
  | unknownArgument
  | unknownCommand
  | missingArgument
  | missingCommand
  /-- An option was given twice. -/
  | conflict
  /-- A value is absent, or is empty where it must not be. -/
  | invalidValue
  /-- A value was given to an option that takes none. -/
  | tooManyValues
  /-- A value that cannot be read. -/
  | unreadableValue (value : String) (error : Error)
  deriving DecidableEq, Repr

/-- The exit code; only help that was asked for is a success. -/
def Usage.exitCode : Usage → Nat
  | .help => 0
  | _ => 2

open Text.Terminal in
/-- What a terminal is told about a value that cannot be read.  The value may hold terminal commands
    of its own. -/
def Usage.notice? : Usage → Option String
  | .unreadableValue value error =>
      some (emphasised "error:" ++ " invalid value '" ++ emphasised value ++ "' for '"
        ++ emphasised "--msg-type <MSG_TYPES>" ++ "': " ++ error.message
        ++ "\n\nFor more information, try '" ++ emphasised "--help" ++ "'.\n")
  | _ => none

/-- What is said about a value that cannot be read: the first line of the notice, without terminal
    commands. -/
def Usage.message? (u : Usage) : Option String :=
  u.notice?.map fun notice => Text.firstLine (Text.Terminal.withoutCommands notice)

end MarketFeed
