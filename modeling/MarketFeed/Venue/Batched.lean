import MarketFeed.Frame
import MarketFeed.MessageType
import MarketFeed.Text.Lowercase
import MarketFeed.Venue.Stream

namespace MarketFeed

/-!
# Venues that take many topics in one command

* `Batched` — such a format: the topic of each message type and symbol, and the frame around a list
  of topics.
* `Batched.binance`, `Batched.bitmex`, `Batched.bybit`, `Batched.deribit`, `Batched.okex`,
  `Batched.okx` — the six formats.
* `OkexMarket` — the market an OKEx instrument id belongs to, read off its shape.
-/

/-- A format with all topics in one command. -/
structure Batched where
  /-- The topic that carries a message type for a symbol, if the venue has such a channel. -/
  topic? (symbol : String) (message : MessageType) : Option (Stream Json)
  /-- The command that starts or ends the subscription to some topics. -/
  frame (subscribe : Bool) (topics : List Json) : Frame

/-- A topic whose text is known at once. -/
def textTopic (text : String) : Option (Stream Json) := some (.ready (.string text))

/-- A topic whose text needs the interval. -/
def timedTopic (text : String → String) : Option (Stream Json) :=
  some (.timed fun interval => .string (text interval))

/-! ### Binance -/

/-- Topics are `symbol@channel` with the symbol in lower case.  A spot request is refused without an
    unsigned `id`, so one is always sent. -/
def Batched.binance : Batched where
  topic? symbol
    | .trade => textTopic (Text.lowercase symbol ++ "@aggTrade")
    | .l2Event => textTopic (Text.lowercase symbol ++ "@depth@100ms")
    | .l2TopK => textTopic (Text.lowercase symbol ++ "@depth5")
    | .bbo => textTopic (Text.lowercase symbol ++ "@bookTicker")
    | .ticker => textTopic (Text.lowercase symbol ++ "@ticker")
    | .candlestick => timedTopic fun interval => Text.lowercase symbol ++ "@kline_" ++ interval
    | _ => none
  frame subscribe topics :=
    { members :=
        [{ name := "id", value := .json (.number "9527") },
         (Member.word "method" (if subscribe then "SUBSCRIBE" else "UNSUBSCRIBE")).apart,
         { name := "params", value := .json (.array topics) }] }

/-! ### BitMEX -/

/-- Topics are `channel:symbol`; the interval is part of the candlestick channel's name. -/
def Batched.bitmex : Batched where
  topic? symbol
    | .trade => textTopic ("trade:" ++ symbol)
    | .l2Event => textTopic ("orderBookL2_25:" ++ symbol)
    | .l2TopK => textTopic ("orderBook10:" ++ symbol)
    | .bbo => textTopic ("quote:" ++ symbol)
    | .candlestick => timedTopic fun interval => "tradeBin" ++ interval ++ ":" ++ symbol
    | _ => none
  frame subscribe topics :=
    { members :=
        [Member.word "op" (subscribeVerb subscribe),
         Member.apart { name := "args", value := .json (.array topics) }] }

/-! ### Bybit -/

/-- The symbol of a USDT-margined contract. -/
def isUsdtMargined (symbol : String) : Bool := "USDT".toList.isSuffixOf symbol.toList

/-- Topics are `channel.symbol`; candlesticks of USDT-margined symbols have a channel of their
    own. -/
def Batched.bybit : Batched where
  topic? symbol
    | .trade => textTopic ("trade." ++ symbol)
    | .l2Event => textTopic ("orderBookL2_25." ++ symbol)
    | .ticker => textTopic ("instrument_info.100ms." ++ symbol)
    | .candlestick =>
        timedTopic fun interval =>
          (if isUsdtMargined symbol then "candle." else "klineV2.") ++ interval ++ "." ++ symbol
    | _ => none
  frame subscribe topics :=
    { members :=
        [Member.word "op" (subscribeVerb subscribe),
         Member.apart { name := "args", value := .json (.array topics) }] }

/-! ### Deribit -/

/-- Topics are `channel.symbol.period`, and the list of them lies one object deeper. -/
def Batched.deribit : Batched where
  topic? symbol
    | .trade => textTopic ("trades." ++ symbol ++ ".100ms")
    | .l2Event => textTopic ("book." ++ symbol ++ ".100ms")
    | .l2TopK => textTopic ("book." ++ symbol ++ ".5.10.100ms")
    | .bbo => textTopic ("quote." ++ symbol)
    | .ticker => textTopic ("ticker." ++ symbol ++ ".100ms")
    | .candlestick => timedTopic fun interval => "chart.trades." ++ symbol ++ "." ++ interval
    | _ => none
  frame subscribe topics :=
    { members :=
        [Member.word "method" ("public/" ++ subscribeVerb subscribe),
         Member.apart
           { name := "params", value := .json (.object [("channels", .array topics)]) }] }

/-! ### OKEx -/

/-- The markets of OKEx. -/
inductive OkexMarket
  | spot
  | futures
  | swap
  | option
  deriving DecidableEq, Repr

/-- The market as it is written in a topic. -/
def OkexMarket.code : OkexMarket → String
  | .spot => "spot"
  | .futures => "futures"
  | .swap => "swap"
  | .option => "option"

/-- The market of an instrument id: `BTC-USDT-SWAP` is a swap, `BTC-USDT` spot, `BTC-USD-210625` a
    future, and an id of any other shape an option. -/
def OkexMarket.ofInstrument (instrument : String) : OkexMarket :=
  if "-SWAP".toList.isSuffixOf instrument.toList then .swap
  else
    match instrument.toList.count '-' with
    | 1 => .spot
    | 2 => .futures
    | _ => .option

/-- Topics are `market/channel:instrument`.  Best bid and offer come with the ticker. -/
def Batched.okex : Batched where
  topic? symbol
    | .trade => textTopic (market symbol ++ "/trade:" ++ symbol)
    | .l2Event => textTopic (market symbol ++ "/depth_l2_tbt:" ++ symbol)
    | .l2TopK => textTopic (market symbol ++ "/depth5:" ++ symbol)
    | .bbo => textTopic (market symbol ++ "/ticker:" ++ symbol)
    | .ticker => textTopic (market symbol ++ "/ticker:" ++ symbol)
    | .candlestick =>
        timedTopic fun interval => market symbol ++ "/candle" ++ interval ++ "s:" ++ symbol
    | _ => none
  frame subscribe topics :=
    { members :=
        [Member.word "op" (subscribeVerb subscribe),
         { name := "args", value := .json (.array topics) }] }
where
  /-- The market part of a topic. -/
  market (symbol : String) : String := (OkexMarket.ofInstrument symbol).code

/-! ### OKX -/

/-- A topic of OKX: an object of a channel and an instrument. -/
def okxTopic (symbol channel : String) : Json :=
  .object [("channel", .string channel), ("instId", .string symbol)]

/-- Topics are objects; the interval is part of the candlestick channel's name. -/
def Batched.okx : Batched where
  topic? symbol
    | .trade => some (.ready (okxTopic symbol "trades"))
    | .l2Event => some (.ready (okxTopic symbol "books-l2-tbt"))
    | .l2TopK => some (.ready (okxTopic symbol "books5"))
    | .ticker => some (.ready (okxTopic symbol "tickers"))
    | .candlestick => some (.timed fun interval => okxTopic symbol ("candle" ++ interval))
    | _ => none
  frame subscribe topics :=
    { members :=
        [Member.word "op" (subscribeVerb subscribe),
         { name := "args", value := .json (.array topics) }] }

end MarketFeed
