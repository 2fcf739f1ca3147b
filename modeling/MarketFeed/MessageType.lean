namespace MarketFeed

/-!
# Message types

What one market-data message carries.

* `MessageType` — the twelve kinds, `MessageType.all` in the order of their tags.
* `MessageType.code`, `MessageType.tag` — the two stable representations: a text and a byte.
* `MessageType.isSnapshot`, `MessageType.isPush` — whole books, and delivery over a subscription.
-/

/-- A kind of market-data message.  `l2Snapshot` and `l2TopK` hold the same data, but the first is
    fetched on request and the second pushed to subscribers, so they stay distinct. -/
inductive MessageType
  | other
  | trade
  | l2Event
  | l2Snapshot
  | l2TopK
  | l3Event
  | l3Snapshot
  | bbo
  | ticker
  | candlestick
  | fundingRate
  | openInterest
  deriving DecidableEq, Repr, Inhabited

/-! ### Representations -/

/-- The canonical code. -/
def MessageType.code : MessageType → String
  | .other => "other"
  | .trade => "trade"
  | .l2Event => "l2_event"
  | .l2Snapshot => "l2_snapshot"
  | .l2TopK => "l2_topk"
  | .l3Event => "l3_event"
  | .l3Snapshot => "l3_snapshot"
  | .bbo => "bbo"
  | .ticker => "ticker"
  | .candlestick => "candlestick"
  | .fundingRate => "funding_rate"
  | .openInterest => "open_interest"

/-- The byte that stands for the kind in stored data. -/
def MessageType.tag : MessageType → UInt8
  | .other => 0
  | .trade => 1
  | .l2Event => 2
  | .l2Snapshot => 3
  | .l2TopK => 4
  | .l3Event => 5
  | .l3Snapshot => 6
  | .bbo => 7
  | .ticker => 8
  | .candlestick => 9
  | .fundingRate => 10
  | .openInterest => 11

/-- Every kind, in the order of the tags. -/
def MessageType.all : List MessageType :=
  [.other, .trade, .l2Event, .l2Snapshot, .l2TopK, .l3Event, .l3Snapshot, .bbo, .ticker,
   .candlestick, .fundingRate, .openInterest]

theorem MessageType.mem_all (m : MessageType) : m ∈ MessageType.all := by
  cases m <;> decide

/-! ### Delivery -/

/-- A full or top-K order book. -/
def MessageType.isSnapshot : MessageType → Bool
  | .l2Snapshot | .l2TopK | .l3Snapshot => true
  | _ => false

/-- Delivered over a push channel rather than fetched on request. -/
def MessageType.isPush : MessageType → Bool
  | .l2Snapshot | .l3Snapshot => false
  | _ => true

end MarketFeed
