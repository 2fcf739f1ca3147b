import MarketFeed.Usage
import MarketFeed.Vocabulary

namespace MarketFeed

/-!
# Command-line arguments

A command line names a subcommand and gives it options and perhaps one plain value.  The options
`--log-level` and `--log-dir` may also stand in front of the subcommand.

* `Command`, `Invocation` — what a command line asks for.
* `Switch`, `Scope` — the options, and the places where they are known.
* `Given` — what a scope was given so far.  The value of an option may come as the next argument; it
  is then `Pending` until something else follows, and is only checked at that point.
* `Scope.scan` — takes the arguments of one scope.
* `Invocation.ofArguments` — the whole command line, or why it is not carried out.
-/

/-! ### What a command line asks for -/

/-- A subcommand with its options. -/
inductive Command
  /-- List the market types of an exchange. -/
  | marketTypes (exchange : String)
  /-- Print the commands of a selection. -/
  | wsCommands (exchange : String) (messages : List MessageType) (symbols : List String)
      (unsubscribe : Bool) (interval? : Option String)
  /-- Print the commands of a plan. -/
  | plan (path : String)
  deriving DecidableEq, Repr

/-- A command line. -/
structure Invocation where
  command : Command
  logLevel : String := "info"
  logDirectory? : Option String := none
  deriving DecidableEq, Repr

/-! ### Options and scopes -/

/-- An option of the command line. -/
inductive Switch
  | help
  | logLevel
  | logDirectory
  | exchange
  | message
  | symbol
  | unsubscribe
  | interval
  deriving DecidableEq, Repr

/-- The long name, after two dashes. -/
def Switch.long : Switch → String
  | .help => "help"
  | .logLevel => "log-level"
  | .logDirectory => "log-dir"
  | .exchange => "exchange"
  | .message => "msg-type"
  | .symbol => "symbol"
  | .unsubscribe => "unsubscribe"
  | .interval => "interval"

/-- The short name, after one dash. -/
def Switch.short? : Switch → Option Char
  | .help => some 'h'
  | .logLevel => some 'l'
  | .exchange => some 'e'
  | .message => some 'm'
  | .symbol => some 's'
  | _ => none

/-- The option has a value. -/
def Switch.takesValue : Switch → Bool
  | .help | .unsubscribe => false
  | _ => true

/-- A place in the command line: in front of the subcommand, or after one of them. -/
inductive Scope
  | root
  | marketTypes
  | wsCommands
  | plan
  deriving DecidableEq, Repr

/-- The scope that a subcommand opens. -/
def Scope.ofName? (name : String) : Option Scope :=
  if name = "market-types" then some .marketTypes
  else if name = "ws-commands" then some .wsCommands
  else if name = "plan" then some .plan
  else none

/-- The options known in a scope. -/
def Scope.options : Scope → List Switch
  | .wsCommands =>
      [.help, .logLevel, .logDirectory, .exchange, .message, .symbol, .unsubscribe, .interval]
  | _ => [.help, .logLevel, .logDirectory]

/-- The scope takes one plain value. -/
def Scope.takesPlain : Scope → Bool
  | .marketTypes | .plan => true
  | _ => false

/-- The option with a long name. -/
def Scope.long? (scope : Scope) (name : List Char) : Option Switch :=
  scope.options.find? fun o => o.long.toList == name

/-- The option with a short name. -/
def Scope.short? (scope : Scope) (name : Char) : Option Switch :=
  scope.options.find? fun o => o.short? == some name

/-! ### What was given -/

/-- A value that is not yet checked. -/
inductive Pending
  /-- An option, and its value once it has come. -/
  | option (o : Switch) (value? : Option String)
  /-- The plain value. -/
  | plain (value : String)
  deriving DecidableEq, Repr

/-- What a scope was given. -/
structure Given where
  logLevel? : Option String := none
  logDirectory? : Option String := none
  exchange? : Option String := none
  messages : List MessageType := []
  symbols : List String := []
  unsubscribe : Bool := false
  interval? : Option String := none
  plain? : Option String := none
  pending? : Option Pending := none
  deriving DecidableEq, Repr

namespace Given

/-- An option is waiting for its value. -/
def awaitsValue (g : Given) : Bool :=
  match g.pending? with
  | some (.option _ none) => true
  | _ => false

/-- The plain value was given. -/
def hasPlain (g : Given) : Bool :=
  match g.pending? with
  | some (.plain _) => true
  | _ => g.plain?.isSome

/-- Something was given in front of the subcommand. -/
def isExplicit (g : Given) : Bool := g.logLevel?.isSome || g.logDirectory?.isSome

/-- Sets a value that may be given once. -/
def once (old? : Option String) (value : String) : Except Usage (Option String) :=
  if old?.isSome then .error .conflict else .ok (some value)

/-- Takes an option with its value, which is empty for an option that has none. -/
def accept (g : Given) (o : Switch) (value : String) : Except Usage Given :=
  match o with
  | .help => .error .help
  | .logLevel => do return { g with logLevel? := ← once g.logLevel? value }
  | .logDirectory => do return { g with logDirectory? := ← once g.logDirectory? value }
  | .exchange => do return { g with exchange? := ← once g.exchange? value }
  | .interval => do return { g with interval? := ← once g.interval? value }
  | .symbol => .ok { g with symbols := g.symbols ++ [value] }
  | .unsubscribe => if g.unsubscribe then .error .conflict else .ok { g with unsubscribe := true }
  | .message =>
    match Vocabulary.parse (α := MessageType) value with
    | .ok m => .ok { g with messages := g.messages ++ [m] }
    | .error e => .error (.unreadableValue value e)

/-- Checks the pending value, if there is one.  The path of a plan must not be empty. -/
def settle (scope : Scope) (g : Given) : Except Usage Given :=
  match g.pending? with
  | none => .ok g
  | some (.option _ none) => .error .invalidValue
  | some (.option o (some value)) => { g with pending? := none }.accept o value
  | some (.plain value) =>
    if scope = .plan ∧ value = "" then .error .invalidValue
    else .ok { g with pending? := none, plain? := some value }

/-- Takes an option whose value, if any, was given with it. -/
def take (scope : Scope) (g : Given) (o : Switch) (value : String) : Except Usage Given := do
  (← g.settle scope).accept o value

/-- Takes an option whose value must come next. -/
def await (scope : Scope) (g : Given) (o : Switch) : Except Usage Given := do
  return { ← g.settle scope with pending? := some (.option o none) }

end Given

/-! ### Arguments -/

/-- The kinds of argument, by their dashes. -/
inductive Argument
  /-- Two dashes: only plain values follow. -/
  | escape
  /-- A long name, perhaps with a value after an equals sign. -/
  | long (name : List Char) (value? : Option String)
  /-- Short names, the last perhaps with a value. -/
  | short (cluster : List Char)
  | word
  deriving DecidableEq, Repr

/-- The kind of an argument. -/
def Argument.ofText (text : String) : Argument :=
  match text.toList with
  | ['-', '-'] => .escape
  | '-' :: '-' :: cs =>
    match cs.dropWhile (· != '=') with
    | '=' :: value => .long (cs.takeWhile (· != '=')) (some (String.ofList value))
    | _ => .long cs none
  | '-' :: c :: cs => .short (c :: cs)
  | _ => .word

namespace Scope

/-- Takes an option by its long name. -/
def takeLong (scope : Scope) (g : Given) (name : List Char) (value? : Option String) :
    Except Usage Given :=
  match scope.long? name with
  | none => .error .unknownArgument
  | some o =>
    match o.takesValue, value? with
    | true, some value => g.take scope o value
    | true, none => g.await scope o
    | false, some _ => .error .tooManyValues
    | false, none => g.take scope o ""

/-- Takes options by their short names.  What follows the name of an option with a value is the
    value, an equals sign in between being dropped. -/
def takeShort (scope : Scope) (g : Given) : List Char → Except Usage Given
  | [] => .ok g
  | c :: cs =>
    match scope.short? c with
    | none => .error .unknownArgument
    | some o =>
      if !o.takesValue then do scope.takeShort (← g.take scope o "") cs
      else
        match cs with
        | [] => g.await scope o
        | '=' :: value => g.take scope o (String.ofList value)
        | value => g.take scope o (String.ofList value)

/-- Takes a plain value.  Where none is taken, it must be a mistake for something else. -/
def takePlain (scope : Scope) (g : Given) (escaped : Bool) (text : String) : Except Usage Given :=
  if scope.takesPlain && !g.hasPlain then do
    return { ← g.settle scope with pending? := some (.plain text) }
  else if scope = .root ∧ ¬(escaped ∧ (text = "help" ∨ (ofName? text).isSome)) then
    .error .unknownCommand
  else .error .unknownArgument

/-- The answer to the command `help`, which may be followed by the name of another command. -/
def help : List String → Usage
  | [] => .help
  | name :: names =>
    if (name = "help" ∨ (ofName? name).isSome) ∧ names = [] then .help else .unknownCommand

/-- The subcommand that an argument opens, if the scope has any and no option waits for the
    argument. -/
def opens? (scope : Scope) (g : Given) (text : String) : Option Scope :=
  if scope = .root ∧ !g.awaitsValue then ofName? text else none

/-- Takes the arguments of a scope, up to a subcommand, which is given with the arguments that are
    left. -/
def scan (scope : Scope) (g : Given) (escaped : Bool) :
    List String → Except Usage (Given × Option (Scope × List String))
  | [] => .ok (g, none)
  | text :: rest =>
    if escaped then do
      scope.scan (← scope.takePlain g true text) true rest
    else if scope = .root ∧ !g.awaitsValue ∧ text = "help" then .error (help rest)
    else
      match scope.opens? g text with
      | some sub => .ok (g, some (sub, rest))
      | none =>
        match Argument.ofText text with
        | .escape => scope.scan g true rest
        | .long name value? => do scope.scan (← scope.takeLong g name value?) false rest
        | .short cluster => do scope.scan (← scope.takeShort g cluster) false rest
        | .word =>
          match g.pending? with
          | some (.option o none) =>
            scope.scan { g with pending? := some (.option o (some text)) } false rest
          | _ => do scope.scan (← scope.takePlain g false text) false rest

/-- The command of a scope, once everything it needs was given. -/
def command (scope : Scope) (g : Given) : Except Usage Command :=
  match scope, g.plain?, g.exchange? with
  | .marketTypes, some exchange, _ => .ok (.marketTypes exchange)
  | .plan, some path, _ => .ok (.plan path)
  | .wsCommands, _, some exchange =>
    if g.messages.isEmpty || g.symbols.isEmpty then .error .missingArgument
    else .ok (.wsCommands exchange g.messages g.symbols g.unsubscribe g.interval?)
  | _, _, _ => .error .missingArgument

end Scope

/-! ### Command lines -/

/-- What the arguments of a command line ask for.  An option given after the subcommand wins over
    the same option in front of it. -/
def Invocation.ofArguments (arguments : List String) : Except Usage Invocation := do
  let (outer, sub?) ← Scope.root.scan {} false arguments
  match sub? with
  | none =>
    let outer ← outer.settle .root
    throw (if outer.isExplicit then .missingCommand else .helpOnNothing)
  | some (sub, rest) =>
    let (inner, _) ← sub.scan {} false rest
    let inner ← inner.settle sub
    let command ← sub.command inner
    let outer ← outer.settle .root
    return {
      command
      logLevel := (inner.logLevel?.or outer.logLevel?).getD "info"
      logDirectory? := inner.logDirectory?.or outer.logDirectory? }

end MarketFeed
