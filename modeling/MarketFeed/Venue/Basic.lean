import MarketFeed.Venue.Batched
import MarketFeed.Venue.Single

namespace MarketFeed

/-!
# Venues

The exchanges whose subscription format is known, and the commands they take.

* `Venue`, `Exchange.venue?` — these exchanges.
* `Venue.messages`, `Exchange.messages?` — the message types a venue, or an exchange, has a channel
  for.
* `Selection` — what to subscribe to, or to unsubscribe from.
* `Venue.commands` — the commands for a selection.  Pairs of a message type and a symbol are taken
  message type by message type, and the first pair that has no channel, or lacks its interval,
  decides the error.
-/

/-- An exchange whose subscription format is known. -/
inductive Venue
  | binance
  | bitfinex
  | bitmex
  | bybit
  | deribit
  | ftx
  | huobi
  | okex
  | okx
  deriving DecidableEq, Repr

/-- The venue as an exchange of the catalogue. -/
def Venue.exchange : Venue → Exchange
  | .binance => .binance
  | .bitfinex => .bitfinex
  | .bitmex => .bitmex
  | .bybit => .bybit
  | .deribit => .deribit
  | .ftx => .ftx
  | .huobi => .huobi
  | .okex => .okex
  | .okx => .okx

/-- The exchange as a venue, if its format is known. -/
def Exchange.venue? : Exchange → Option Venue
  | .binance => some .binance
  | .bitfinex => some .bitfinex
  | .bitmex => some .bitmex
  | .bybit => some .bybit
  | .deribit => some .deribit
  | .ftx => some .ftx
  | .huobi => some .huobi
  | .okex => some .okex
  | .okx => some .okx
  | _ => none

/-- A venue belongs to its own exchange, and to no other. -/
theorem Exchange.venue?_eq_some_iff {e : Exchange} {v : Venue} :
    e.venue? = some v ↔ v.exchange = e := by
  cases e <;> cases v <;> decide

/-- The message types a venue has a channel for, in the order of their tags. -/
def Venue.messages : Venue → List MessageType
  | .binance => [.trade, .l2Event, .l2TopK, .bbo, .ticker, .candlestick]
  | .bitfinex => [.trade, .l2Event, .l3Event, .bbo, .ticker, .candlestick]
  | .bitmex => [.trade, .l2Event, .l2TopK, .bbo, .candlestick]
  | .bybit => [.trade, .l2Event, .ticker, .candlestick]
  | .deribit => [.trade, .l2Event, .l2TopK, .bbo, .ticker, .candlestick]
  | .ftx => [.trade, .l2Event, .bbo]
  | .huobi => [.trade, .l2Event, .l2TopK, .bbo, .ticker, .candlestick]
  | .okex => [.trade, .l2Event, .l2TopK, .bbo, .ticker, .candlestick]
  | .okx => [.trade, .l2Event, .l2TopK, .ticker, .candlestick]

/-- The message types an exchange has a channel for, if its format is known.  The exchanges are told
    apart here once more, beside `Exchange.venue?`. -/
def Exchange.messages? : Exchange → Option (List MessageType)
  | .binance => some Venue.binance.messages
  | .bitfinex => some Venue.bitfinex.messages
  | .bitmex => some Venue.bitmex.messages
  | .bybit => some Venue.bybit.messages
  | .deribit => some Venue.deribit.messages
  | .ftx => some Venue.ftx.messages
  | .huobi => some Venue.huobi.messages
  | .okex => some Venue.okex.messages
  | .okx => some Venue.okx.messages
  | _ => none

/-- The two tables of exchanges have the same entries. -/
theorem Exchange.messages?_eq (e : Exchange) : e.messages? = e.venue?.map Venue.messages := by
  cases e <;> rfl

/-! ### Formats -/

/-- How a venue takes subscriptions. -/
inductive Format
  | batched (format : Batched)
  | single (format : Single)

/-- The format of each venue. -/
def Venue.format : Venue → Format
  | .binance => .batched .binance
  | .bitfinex => .single .bitfinex
  | .bitmex => .batched .bitmex
  | .bybit => .batched .bybit
  | .deribit => .batched .deribit
  | .ftx => .single .ftx
  | .huobi => .single .huobi
  | .okex => .batched .okex
  | .okx => .batched .okx

/-! ### Commands -/

/-- What to subscribe to: every message type for every symbol. -/
structure Selection where
  messages : List MessageType
  symbols : List String
  /-- Whether to start the subscription or to end it. -/
  subscribe : Bool := true
  params : Params := {}
  deriving DecidableEq, Repr

/-- The selection asks for nothing. -/
def Selection.isEmpty (s : Selection) : Bool := s.messages.isEmpty || s.symbols.isEmpty

/-- The stream of one message type, or why there is none. -/
def Venue.resolve {α : Type} (v : Venue) (params : Params) (message : MessageType) :
    Option (Stream α) → Except Error α
  | some stream => stream.resolve params
  | none => .error (.noChannel v.exchange message)

/-- The commands for a selection, one frame each. -/
def Venue.frames (v : Venue) (s : Selection) : Except Error (List Frame) :=
  match v.format with
  | .batched format => do
    let topics ← forEachPair s.messages s.symbols fun message symbol =>
      v.resolve s.params message (format.topic? symbol message)
    return [format.frame s.subscribe topics]
  | .single format =>
    forEachPair s.messages s.symbols fun message symbol =>
      v.resolve s.params message (format.frame? s.subscribe symbol message)

/-- The commands for a selection, as they are sent. -/
def Venue.commands (v : Venue) (s : Selection) : Except Error (List String) := do
  return (← v.frames s).map Frame.text

end MarketFeed
