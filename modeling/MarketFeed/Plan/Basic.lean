import MarketFeed.Request

namespace MarketFeed

/-!
# Subscription plans

A plan lists, market by market, what to subscribe to.

* `Plan.Entry`, `Plan` — one market's subscriptions, and a whole plan.
* `Plan.moduleName`, `Plan.logDirectory` — where a run of the plan logs to.
* `Plan.Entry.validate`, `Plan.validate` — the check against the market catalogue.
* `Plan.Entry.build` — the commands of an entry that passes the check.
-/

/-- The subscriptions of one market on one exchange. -/
structure Plan.Entry where
  /-- The exchange, by any of its names. -/
  exchange : String
  market : MarketType
  selection : Selection
  deriving DecidableEq, Repr

/-- A subscription plan. -/
structure Plan where
  /-- What the log files of a run are named after. -/
  moduleName? : Option String := none
  /-- Where the log files of a run go. -/
  logPath? : Option String := none
  entries : List Plan.Entry
  deriving DecidableEq, Repr

/-- The name log files go by. -/
def Plan.moduleName (p : Plan) : String := p.moduleName?.getD "cmt"

/-- The directory of the log files; one that was asked for wins over the plan's own. -/
def Plan.logDirectory (p : Plan) (asked? : Option String) : Option String := asked?.or p.logPath?

/-! ### Validation -/

/-- The exchange must be known and must list the market. -/
def Plan.Entry.validate (entry : Plan.Entry) : Except Error Unit := do
  let e ← Vocabulary.parse (α := Exchange) entry.exchange
  if e.lists entry.market then return ()
  else throw (.invalidPlan (e.code ++ " has no " ++ entry.market.code ++ " market"))

/-- Every entry must be valid; the first that is not decides the error. -/
def Plan.validate (p : Plan) : Except Error Unit := p.entries.forM Plan.Entry.validate

/-! ### Commands -/

/-- The request of an entry. -/
def Plan.Entry.request (entry : Plan.Entry) : Request where
  exchange := entry.exchange
  selection := entry.selection

/-- The commands of a valid entry, with what was logged while building them. -/
def Plan.Entry.build (entry : Plan.Entry) : Except Error Built := do
  entry.validate
  entry.request.build

/-- The commands of an entry. -/
def Plan.Entry.commands (entry : Plan.Entry) : Except Error (List String) :=
  Built.commands <$> entry.build

end MarketFeed
