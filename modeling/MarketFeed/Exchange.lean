import MarketFeed.MarketType

namespace MarketFeed

/-!
# Exchanges

The exchanges of the market catalogue and the markets each of them lists.

* `Exchange`, `Exchange.code`, `Exchange.all` — the exchanges, by name.
* `Exchange.marketTypes` — the catalogue.
* `Exchange.lists` — membership in it.
-/

/-- A cryptocurrency exchange.  `okex` and `okx` are the same market under an older and a newer
    interface. -/
inductive Exchange
  | binance
  | bitfinex
  | bitget
  | bithumb
  | bitmex
  | bitstamp
  | bitz
  | bybit
  | coinbasePro
  | deribit
  | dydx
  | ftx
  | gate
  | huobi
  | kraken
  | kucoin
  | mexc
  | okex
  | okx
  | zb
  | zbg
  deriving DecidableEq, Repr

/-- The canonical name. -/
def Exchange.code : Exchange → String
  | .binance => "binance"
  | .bitfinex => "bitfinex"
  | .bitget => "bitget"
  | .bithumb => "bithumb"
  | .bitmex => "bitmex"
  | .bitstamp => "bitstamp"
  | .bitz => "bitz"
  | .bybit => "bybit"
  | .coinbasePro => "coinbase_pro"
  | .deribit => "deribit"
  | .dydx => "dydx"
  | .ftx => "ftx"
  | .gate => "gate"
  | .huobi => "huobi"
  | .kraken => "kraken"
  | .kucoin => "kucoin"
  | .mexc => "mexc"
  | .okex => "okex"
  | .okx => "okx"
  | .zb => "zb"
  | .zbg => "zbg"

/-- Every exchange, by name. -/
def Exchange.all : List Exchange :=
  [.binance, .bitfinex, .bitget, .bithumb, .bitmex, .bitstamp, .bitz, .bybit, .coinbasePro,
   .deribit, .dydx, .ftx, .gate, .huobi, .kraken, .kucoin, .mexc, .okex, .okx, .zb, .zbg]

theorem Exchange.mem_all (e : Exchange) : e ∈ Exchange.all := by
  cases e <;> decide

/-! ### The catalogue -/

/-- The market types an exchange lists, in its own order. -/
def Exchange.marketTypes : Exchange → List MarketType
  | .binance => [.spot, .linearFuture, .inverseFuture, .linearSwap, .inverseSwap]
  | .bitfinex => [.spot, .linearSwap]
  | .bitget => [.spot, .inverseSwap, .linearSwap]
  | .bithumb => [.spot]
  | .bitmex =>
      [.linearSwap, .inverseSwap, .quantoSwap, .linearFuture, .inverseFuture, .quantoFuture]
  | .bitstamp => [.spot]
  | .bitz => [.spot, .inverseSwap, .linearSwap]
  | .bybit => [.inverseSwap, .linearSwap, .inverseFuture]
  | .coinbasePro => [.spot]
  | .deribit => [.inverseFuture, .inverseSwap, .europeanOption]
  | .dydx => [.linearSwap]
  | .ftx => [.spot, .linearFuture, .linearSwap, .move, .bvol]
  | .gate => [.spot, .inverseFuture, .linearFuture, .inverseSwap, .linearSwap]
  | .huobi => [.spot, .inverseFuture, .linearSwap, .inverseSwap]
  | .kraken => [.spot, .inverseFuture, .inverseSwap]
  | .kucoin => [.spot, .linearSwap, .inverseSwap, .inverseFuture]
  | .mexc => [.spot, .linearSwap, .inverseSwap]
  | .okex | .okx =>
      [.spot, .linearFuture, .inverseFuture, .linearSwap, .inverseSwap, .europeanOption]
  | .zb => [.spot, .linearSwap]
  | .zbg => [.spot, .inverseSwap, .linearSwap]

/-- The exchange lists the market type. -/
def Exchange.lists (e : Exchange) (m : MarketType) : Bool := e.marketTypes.contains m

/-- An exchange lists just its market types. -/
@[simp] theorem Exchange.lists_iff (e : Exchange) (m : MarketType) :
    e.lists m = true ↔ m ∈ e.marketTypes := by
  simp [Exchange.lists]

end MarketFeed
