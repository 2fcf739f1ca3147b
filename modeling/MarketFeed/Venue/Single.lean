import MarketFeed.Frame
import MarketFeed.MessageType
import MarketFeed.Text.Lowercase
import MarketFeed.Venue.Stream

namespace MarketFeed

/-!
# Venues that take one topic per command

* `Single` — such a format: the command of each message type and symbol.  The symbol is set between
  quotes as it is.
* `Single.bitfinex`, `Single.ftx`, `Single.huobi` — the three formats.
-/

/-- A format with one command for each topic. -/
structure Single where
  /-- The command that starts or ends the stream of a message type for a symbol, if the venue has
      such a channel. -/
  frame? (subscribe : Bool) (symbol : String) (message : MessageType) : Option (Stream Frame)

/-! ### Bitfinex -/

/-- The members every Bitfinex command begins with. -/
def bitfinexHead (subscribe : Bool) (channel : String) : List Member :=
  [Member.word "event" (subscribeVerb subscribe), (Member.word "channel" channel).apart]

/-- A raw book of some depth: the best level alone is the best bid and offer. -/
def bitfinexRawBook (subscribe : Bool) (symbol depth : String) : Frame where
  members := bitfinexHead subscribe "book" ++
    [(Member.splice "symbol" symbol).apart.loose,
     (Member.word "prec" "R0").apart,
     Member.apart (Member.loose { name := "len", value := .json (.number depth) })]

/-- Level 3 events and best bid and offer both ride the raw book. -/
def Single.bitfinex : Single where
  frame? subscribe symbol
    | .trade => some (.ready
        { members := bitfinexHead subscribe "trades" ++ [(Member.splice "symbol" symbol).apart] })
    | .ticker => some (.ready
        { members := bitfinexHead subscribe "ticker" ++ [(Member.splice "symbol" symbol).apart] })
    | .l2Event => some (.ready
        { members := bitfinexHead subscribe "book" ++
            [(Member.splice "symbol" symbol).apart,
             (Member.word "prec" "P0").apart,
             (Member.word "frec" "F0").apart,
             Member.apart { name := "len", value := .json (.number "25") }] })
    | .l3Event => some (.ready (bitfinexRawBook subscribe symbol "25"))
    | .bbo => some (.ready (bitfinexRawBook subscribe symbol "1"))
    | .candlestick => some (.timed fun interval =>
        { members := bitfinexHead subscribe "candles" ++
            [(Member.splice "key" ("trade:" ++ interval ++ ":" ++ symbol)).apart] })
    | _ => none

/-! ### FTX -/

/-- A command of FTX: a channel and a market. -/
def ftxFrame (subscribe : Bool) (symbol channel : String) : Frame where
  members :=
    [Member.word "op" (subscribeVerb subscribe), Member.word "channel" channel,
     Member.splice "market" symbol]

/-- Best bid and offer is the channel called ticker. -/
def Single.ftx : Single where
  frame? subscribe symbol
    | .trade => some (.ready (ftxFrame subscribe symbol "trades"))
    | .l2Event => some (.ready (ftxFrame subscribe symbol "orderbook"))
    | .bbo => some (.ready (ftxFrame subscribe symbol "ticker"))
    | _ => none

/-! ### Huobi -/

/-- Spot symbols are all in lower case, contract symbols are not. -/
def isHuobiSpot (symbol : String) : Bool := Text.lowercase symbol == symbol

/-- The channel of incremental book updates on contract markets. -/
def huobiIncremental : String := "depth.size_20.high_freq"

/-- The command for a topic.  A topic that ends in the incremental channel asks for increments and
    is spaced as the exchange documents it. -/
def huobiFrame (subscribe : Bool) (topic : String) : Frame where
  members :=
    if huobiIncremental.toList.isSuffixOf topic.toList then
      [(Member.splice verb topic).loose, Member.word "data_type" "incremental",
       (Member.word "id" client).loose]
    else
      [Member.splice verb topic, Member.word "id" client]
where
  /-- The direction, which is the name of the topic's member. -/
  verb : String := if subscribe then "sub" else "unsub"
  /-- The name this client goes by. -/
  client : String := "crypto-ws-client"

/-- Topics are `market.symbol.channel`; the book channels differ between spot and contract
    markets. -/
def Single.huobi : Single where
  frame? subscribe symbol
    | .trade => ready subscribe symbol "trade.detail"
    | .l2Event => ready subscribe symbol (if isHuobiSpot symbol then "mbp.20" else huobiIncremental)
    | .l2TopK =>
        ready subscribe symbol (if isHuobiSpot symbol then "depth.step1" else "depth.step7")
    | .bbo => ready subscribe symbol "bbo"
    | .ticker => ready subscribe symbol "detail"
    | .candlestick => some (.timed fun interval =>
        huobiFrame subscribe ("market." ++ symbol ++ ".kline." ++ interval))
    | _ => none
where
  /-- The command for a channel that needs no interval. -/
  ready (subscribe : Bool) (symbol channel : String) : Option (Stream Frame) :=
    some (.ready (huobiFrame subscribe ("market." ++ symbol ++ "." ++ channel)))

end MarketFeed
