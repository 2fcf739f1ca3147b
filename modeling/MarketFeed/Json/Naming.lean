import MarketFeed.Exchange
import MarketFeed.Json.Value
import MarketFeed.MessageType

namespace MarketFeed.Json

/-!
# Names of terms in JSON

A type that is a list of terms is written to JSON by the identifiers of its terms, put in a style;
some terms have a name of their own instead.  This is a table apart from the codes of the terms.

* `Style`, `Style.apply` — how an identifier becomes a name.
* `Enumeration` — the terms of a type with what their names are made of.
* `Enumeration.name`, `Enumeration.encode` — the name of a term, and the term as a JSON text.
* `Enumeration.variants` — every term under its name.
-/

/-! ### Styles -/

/-- How an identifier is written as a name. -/
inductive Style
  /-- In small letters. -/
  | lower
  /-- In small letters, with a low line before each letter that was a capital, but the first. -/
  | snake
  deriving DecidableEq, Repr

/-- A character of an identifier, behind others. -/
def snakeChar (c : Char) : List Char := if c.isUpper then ['_', c.toLower] else [c.toLower]

/-- An identifier in some style. -/
def Style.apply (style : Style) (identifier : String) : String :=
  match style, identifier.toList with
  | .snake, c :: cs => String.ofList (c.toLower :: cs.flatMap snakeChar)
  | _, cs => String.ofList (cs.map Char.toLower)

/-! ### Terms -/

/-- A type whose terms are written to JSON by name. -/
class Enumeration (α : Type) where
  /-- The terms, in the order in which they are declared. -/
  terms : List α
  identifier : α → String
  style : Style
  /-- A name that a term has instead of its identifier. -/
  rename? : α → Option String

namespace Enumeration

variable {α : Type} [Enumeration α]

/-- The name of a term. -/
def name (a : α) : String := (rename? a).getD (Style.apply (style α) (identifier a))

/-- The term as a JSON text. -/
def encode (a : α) : String := quote (name a)

/-- Every term under its name. -/
def variants (α : Type) [Enumeration α] : List (String × α) :=
  (terms (α := α)).map fun a => (name a, a)

end Enumeration

instance : Enumeration MarketType where
  terms := [.unknown, .spot, .linearFuture, .inverseFuture, .linearSwap, .inverseSwap,
    .americanOption, .europeanOption, .quantoFuture, .quantoSwap, .move, .bvol]
  identifier
    | .unknown => "Unknown"
    | .spot => "Spot"
    | .linearFuture => "LinearFuture"
    | .inverseFuture => "InverseFuture"
    | .linearSwap => "LinearSwap"
    | .inverseSwap => "InverseSwap"
    | .americanOption => "AmericanOption"
    | .europeanOption => "EuropeanOption"
    | .quantoFuture => "QuantoFuture"
    | .quantoSwap => "QuantoSwap"
    | .move => "Move"
    | .bvol => "BVOL"
  style := .snake
  rename?
    | .bvol => some "bvol"
    | _ => none

instance : Enumeration Collateral where
  terms := [.linear, .inverse]
  identifier
    | .linear => "Linear"
    | .inverse => "Inverse"
  style := .lower
  rename? _ := none

instance : Enumeration MessageType where
  terms := [.other, .trade, .l2Event, .l2Snapshot, .l2TopK, .l3Event, .l3Snapshot, .bbo, .ticker,
    .candlestick, .fundingRate, .openInterest]
  identifier
    | .other => "Other"
    | .trade => "Trade"
    | .l2Event => "L2Event"
    | .l2Snapshot => "L2Snapshot"
    | .l2TopK => "L2TopK"
    | .l3Event => "L3Event"
    | .l3Snapshot => "L3Snapshot"
    | .bbo => "BBO"
    | .ticker => "Ticker"
    | .candlestick => "Candlestick"
    | .fundingRate => "FundingRate"
    | .openInterest => "OpenInterest"
  style := .snake
  rename?
    | .l2TopK => some "l2_topk"
    | .bbo => some "bbo"
    | _ => none

instance : Enumeration Exchange where
  terms := [.binance, .bitfinex, .bitget, .bithumb, .bitmex, .bitstamp, .bitz, .bybit, .coinbasePro,
    .deribit, .dydx, .ftx, .gate, .huobi, .kraken, .kucoin, .mexc, .okex, .okx, .zb, .zbg]
  identifier
    | .binance => "Binance"
    | .bitfinex => "Bitfinex"
    | .bitget => "Bitget"
    | .bithumb => "Bithumb"
    | .bitmex => "Bitmex"
    | .bitstamp => "Bitstamp"
    | .bitz => "Bitz"
    | .bybit => "Bybit"
    | .coinbasePro => "CoinbasePro"
    | .deribit => "Deribit"
    | .dydx => "Dydx"
    | .ftx => "Ftx"
    | .gate => "Gate"
    | .huobi => "Huobi"
    | .kraken => "Kraken"
    | .kucoin => "Kucoin"
    | .mexc => "Mexc"
    | .okex => "Okex"
    | .okx => "Okx"
    | .zb => "Zb"
    | .zbg => "Zbg"
  style := .snake
  rename? _ := none

end MarketFeed.Json
