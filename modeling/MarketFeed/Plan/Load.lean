import MarketFeed.Files
import MarketFeed.Json.Record
import MarketFeed.Plan.Basic

namespace MarketFeed

/-!
# Loading plans

* `Plan.Entry.schema`, `Plan.schema` — the JSON records of an entry and of a plan.
* `Plan.ofText` — the plan in a JSON text.
* `Plan.ofBytes`, `Plan.load` — the plan in a file, which must be UTF-8.
-/

open Json

/-! ### Entries -/

/-- An entry whose fields are being collected. -/
structure Plan.Entry.Draft where
  exchange? : Option String := none
  market? : Option MarketType := none
  messages? : Option (List MessageType) := none
  symbols? : Option (List String) := none
  subscribe? : Option Bool := none
  params? : Option Params := none

/-- The fields of an entry.  A subscription is started unless `subscribe` says otherwise, and needs
    no parameters. -/
def Plan.Entry.schema : Schema Plan.Entry.Draft Plan.Entry where
  title := "struct SubscriptionConfig"
  empty := {}
  fields :=
    [{ name := "exchange"
       isSet := fun d => d.exchange?.isSome
       read := fun d => do return { d with exchange? := some (← readString) } },
     { name := "market_type"
       isSet := fun d => d.market?.isSome
       read := fun d => do return { d with market? := some (← readTerm MarketType) } },
     { name := "msg_types"
       isSet := fun d => d.messages?.isSome
       read := fun d => do
        return { d with messages? := some (← readList (readTerm MessageType)) } },
     { name := "symbols"
       isSet := fun d => d.symbols?.isSome
       read := fun d => do return { d with symbols? := some (← readList readString) } },
     { name := "subscribe"
       isSet := fun d => d.subscribe?.isSome
       read := fun d => do return { d with subscribe? := some (← readBool) }
       mayEnd := true },
     { name := "configs"
       isSet := fun d => d.params?.isSome
       read := fun d => do return { d with params? := some (← readParams) }
       mayEnd := true }]
  finish d := do
    let exchange ← require "exchange" d.exchange?
    let market ← require "market_type" d.market?
    let messages ← require "msg_types" d.messages?
    let symbols ← require "symbols" d.symbols?
    return {
      exchange, market
      selection := {
        messages, symbols
        subscribe := d.subscribe?.getD true
        params := d.params?.getD .empty } }

/-! ### Plans -/

/-- A plan whose fields are being collected; the name and the path may be given as `null`. -/
structure Plan.Draft where
  moduleName? : Option (Option String) := none
  logPath? : Option (Option String) := none
  entries? : Option (List Plan.Entry) := none

/-- The fields of a plan. -/
def Plan.schema : Schema Plan.Draft Plan where
  title := "struct PlanConfig"
  empty := {}
  fields :=
    [{ name := "module_name"
       isSet := fun d => d.moduleName?.isSome
       read := fun d => do return { d with moduleName? := some (← readOptional readString) } },
     { name := "log_path"
       isSet := fun d => d.logPath?.isSome
       read := fun d => do return { d with logPath? := some (← readOptional readString) } },
     { name := "subscriptions"
       isSet := fun d => d.entries?.isSome
       read := fun d => do return { d with entries? := some (← readList Plan.Entry.schema.read) } }]
  finish d := do
    let entries ← require "subscriptions" d.entries?
    return { moduleName? := d.moduleName?.join, logPath? := d.logPath?.join, entries }

/-! ### Texts and files -/

/-- The plan in a JSON text. -/
def Plan.ofText (text : String) : Except Fault Plan := readText Plan.schema.read text

/-- Why no plan could be loaded. -/
inductive Plan.LoadError
  | unreadable (error : ReadError)
  | notUtf8
  | json (fault : Fault)
  deriving DecidableEq, Repr

/-- The wording of a load error; that of a fault ends in the position where the reader found it. -/
def Plan.LoadError.message (position? : Option Position) : Plan.LoadError → String
  | .unreadable e => e.message
  | .notUtf8 => "stream did not contain valid UTF-8"
  | .json fault => fault.message ++ (position?.map Position.text).getD ""

/-- The plan in the bytes of a file.  The bytes are taken for text as a whole before any of it is
    read. -/
def Plan.ofBytes (bytes : ByteArray) : Except Plan.LoadError Plan :=
  match String.fromUTF8? bytes with
  | none => .error .notUtf8
  | some text => (Plan.ofText text).mapError .json

/-- The plan in the file at a path. -/
def Plan.load (files : Files) (path : String) : Except Plan.LoadError Plan :=
  match files.read path with
  | .error e => .error (.unreadable e)
  | .ok bytes => Plan.ofBytes bytes

end MarketFeed
