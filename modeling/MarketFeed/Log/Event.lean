namespace MarketFeed.Log

/-!
# Log events

* `Level` — how grave an event is, ordered by `Level.rank`.
* `Event` — a message of some level, sent to a target.
* `Event.text` — the event on a line of its own.
-/

/-- How grave an event is. -/
inductive Level
  | error
  | warn
  | info
  | debug
  | trace
  deriving DecidableEq, Repr

/-- The verbosity a reader needs to see events of this level. -/
def Level.rank : Level → Nat
  | .error => 1
  | .warn => 2
  | .info => 3
  | .debug => 4
  | .trace => 5

/-- The level as it is written in a log line. -/
def Level.label : Level → String
  | .error => "ERROR"
  | .warn => "WARN"
  | .info => "INFO"
  | .debug => "DEBUG"
  | .trace => "TRACE"

/-- Something that happened, and the part of the program that says so. -/
structure Event where
  level : Level
  target : String
  message : String
  deriving DecidableEq, Repr

/-- The event on a line of its own, its message as it is. -/
def Event.text (e : Event) : String := e.level.label ++ " " ++ e.target ++ ": " ++ e.message

end MarketFeed.Log
