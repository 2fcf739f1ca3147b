import MarketFeed.Venue.Basic
import MarketFeed.Vocabulary

namespace MarketFeed

/-!
# Subscription requests

* `Request` — a selection on an exchange that is given by name.
* `Request.build` — the commands, and the log events of building them.
* `Request.commands` — the commands alone.
-/

/-- A selection on the exchange that a text names. -/
structure Request where
  exchange : String
  selection : Selection
  deriving DecidableEq, Repr

open Log

/-- Commands, and what was logged while building them. -/
structure Built where
  commands : List String
  events : List Event
  deriving DecidableEq, Repr

/-- Reports how many commands were built. -/
def builtEvent (e : Exchange) (commands : List String) (symbols : List String) : Event where
  level := .debug
  target := "cmt_ws::registry"
  message := e.code ++ ": built " ++ toString commands.length ++ " command(s) for "
    ++ toString symbols.length ++ " symbol(s)"

/-- The commands of a request.  A request for nothing has none, whatever its exchange is called. -/
def Request.build (r : Request) : Except Error Built :=
  if r.selection.isEmpty then .ok { commands := [], events := [] }
  else do
    let e ← Vocabulary.parse (α := Exchange) r.exchange
    let v ← match e.venue? with
      | some v => pure v
      | none => throw (.noFormat e)
    let commands ← v.commands r.selection
    return { commands, events := [builtEvent e commands r.selection.symbols] }

/-- The commands of a request. -/
def Request.commands (r : Request) : Except Error (List String) := Built.commands <$> r.build

end MarketFeed
