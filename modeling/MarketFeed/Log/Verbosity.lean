import MarketFeed.Log.Event
import MarketFeed.Text.Basic

namespace MarketFeed.Log

/-!
# Verbosity

* `Verbosity` — how much is let through: nothing, or all levels up to some level.
* `Verbosity.ofText?` — a verbosity by its name or its number.
-/

/-- The gravest levels that are let through. -/
inductive Verbosity
  | off
  | upTo (level : Level)
  deriving DecidableEq, Repr

/-- The number of levels let through. -/
def Verbosity.rank : Verbosity → Nat
  | .off => 0
  | .upTo level => level.rank

/-- The verbosities by number. -/
def Verbosity.all : List Verbosity :=
  [.off, .upTo .error, .upTo .warn, .upTo .info, .upTo .debug, .upTo .trace]

/-- The name of a verbosity. -/
def Verbosity.name : Verbosity → String
  | .off => "off"
  | .upTo .error => "error"
  | .upTo .warn => "warn"
  | .upTo .info => "info"
  | .upTo .debug => "debug"
  | .upTo .trace => "trace"

/-- The number that some digits, after an optional plus, stand for. -/
def numberOf? (cs : List Char) : Option Nat :=
  let ds := match cs with
    | '+' :: rest => rest
    | _ => cs
  if ds.isEmpty || !ds.all Char.isDigit then none
  else some (Text.decimalValue ds)

/-- The verbosity of a name, whose ASCII case does not matter, or of a number. -/
def Verbosity.ofText? (cs : List Char) : Option Verbosity :=
  match numberOf? cs with
  | some n => Verbosity.all[n]?
  | none => Verbosity.all.find? fun v => v.name.toList == cs.map Char.toLower

end MarketFeed.Log
