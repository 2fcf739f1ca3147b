import MarketFeed.Proofs.Text.Split
import MarketFeed.Proofs.Venue.Stream

namespace MarketFeed

/-!
# OKEx — markets and topics of instrument ids

An instrument id is made of pieces with dashes between them, and can be any text.

* `OkexMarket.ofPieces`, `OkexMarket.ofInstrument_eq` — the market is told by the number of the
  pieces and by the last of them.
* `okexChannel?` — the channel of each message type but candlesticks.
* `Batched.okex_topic?_of_channel` — the topic of a channel is the market, the channel and the id.
* `Venue.okex_topics` — market, channel and id are found again in a topic.
-/

/-! ### Markets -/

/-- The market of an instrument id by its pieces.  An id of several pieces the last of which is
    `SWAP` is a swap; of the others two pieces are spot, three are a future and any other number is
    an option. -/
def OkexMarket.ofPieces (pieces : List String) : OkexMarket :=
  if 2 ≤ pieces.length ∧ pieces.getLast? = some "SWAP" then .swap
  else
    match pieces.length with
    | 2 => .spot
    | 3 => .futures
    | _ => .option

/-- An id has several pieces, the last of which is `SWAP`, just when it ends in `-SWAP`. -/
theorem getLast?_splitOn_eq_swap_iff (instrument : String) :
    (2 ≤ (Text.splitOn '-' instrument).length ∧
      (Text.splitOn '-' instrument).getLast? = some "SWAP") ↔
      "-SWAP".toList <:+ instrument.toList := by
  have hlast : (Text.splitOn '-' instrument).getLast? = some "SWAP" ↔
      (Text.splitChars '-' instrument.toList).getLast? = some "SWAP".toList := by
    rw [Text.splitOn, List.getLast?_map, Option.map_eq_some_iff]
    constructor
    · rintro ⟨word, hword, h⟩
      rw [hword, ← h, String.toList_ofList]
    · intro h
      exact ⟨_, h, String.ofList_toList⟩
  rw [hlast, Text.splitOn, List.length_map]
  exact Text.getLast?_splitChars_eq_some_iff (by decide)

/-- **The pieces tell the market.** -/
theorem OkexMarket.ofInstrument_eq (instrument : String) :
    ofInstrument instrument = ofPieces (Text.splitOn '-' instrument) := by
  have hlength : (Text.splitOn '-' instrument).length = instrument.toList.count '-' + 1 := by
    rw [Text.splitOn, List.length_map, Text.length_splitChars]
  rw [ofInstrument, ofPieces]
  by_cases hswap : "-SWAP".toList <:+ instrument.toList
  · rw [if_pos (List.isSuffixOf_iff_suffix.mpr hswap),
      if_pos ((getLast?_splitOn_eq_swap_iff instrument).mpr hswap)]
  · rw [if_neg (mt List.isSuffixOf_iff_suffix.mp hswap),
      if_neg (mt (getLast?_splitOn_eq_swap_iff instrument).mp hswap), hlength]
    -- there is one piece more than there are dashes
    match instrument.toList.count '-' with
    | 0 | 1 | 2 | _ + 3 => rfl

/-- An id without dashes is no swap, whatever it is. -/
example : OkexMarket.ofInstrument "SWAP" = .option := by decide

/-! ### Topics -/

/-- The channel of a message type.  A candlestick has one for each interval. -/
def okexChannel? : MessageType → Option String
  | .trade => some "trade"
  | .l2Event => some "depth_l2_tbt"
  | .l2TopK => some "depth5"
  | .bbo | .ticker => some "ticker"
  | _ => none

/-- The topic of a channel is the market, the channel and the id. -/
theorem Batched.okex_topic?_of_channel {m : MessageType} {channel : String}
    (h : okexChannel? m = some channel) (symbol : String) :
    Batched.okex.topic? symbol m =
      textTopic (okex.market symbol ++ "/" ++ channel ++ ":" ++ symbol) := by
  cases m with
  | trade | l2Event | l2TopK | bbo | ticker =>
    obtain rfl := Option.some.inj h
    simp [Batched.okex, String.append_assoc]
  | _ => cases h

/-- No market has a slash in its code. -/
theorem OkexMarket.slash_not_mem_code (market : OkexMarket) : '/' ∉ market.code.toList := by
  cases market <;> decide

/-- No channel has a colon in its name. -/
theorem colon_not_mem_of_okexChannel? {m : MessageType} {channel : String}
    (h : okexChannel? m = some channel) : ':' ∉ channel.toList := by
  cases m with
  | trade | l2Event | l2TopK | bbo | ticker =>
    obtain rfl := Option.some.inj h
    decide
  | _ => cases h

/-- All message types of OKEx but candlesticks have a channel. -/
theorem exists_okexChannel? {m : MessageType} (hm : m ∈ Venue.okex.messages)
    (hcandlestick : m ≠ .candlestick) : ∃ channel, okexChannel? m = some channel := by
  cases m with
  | trade | l2Event | l2TopK | bbo | ticker => exact ⟨_, rfl⟩
  | candlestick => exact absurd rfl hcandlestick
  | _ => simp [Venue.messages] at hm

/-- **Market, channel and id are found again in a topic**, whatever the id is.  The market is the one
    that the pieces of the id tell.  The topic of a candlestick has the interval in its channel,
    which can be any text, so only the market is sure to be found in it. -/
theorem Venue.okex_topics (params : Params) (symbol : String) :
    ∃ market, market = OkexMarket.ofPieces (Text.splitOn '-' symbol) ∧
      (∀ m ∈ Venue.okex.messages, m ≠ .candlestick → ∃ channel topic,
        okexChannel? m = some channel ∧
        Venue.okex.resolve params m (Batched.okex.topic? symbol m) = .ok (.string topic) ∧
        topic = market.code ++ "/" ++ channel ++ ":" ++ symbol ∧
        Text.cut? '/' topic = some (market.code, channel ++ ":" ++ symbol) ∧
        Text.cut? ':' (channel ++ ":" ++ symbol) = some (channel, symbol)) ∧
      ∀ interval, params.get? "interval" = some interval → ∃ topic,
        Venue.okex.resolve params .candlestick (Batched.okex.topic? symbol .candlestick) =
          .ok (.string topic) ∧
        topic = market.code ++ "/" ++ "candle" ++ interval ++ "s:" ++ symbol ∧
        Text.cut? '/' topic = some (market.code, "candle" ++ interval ++ "s:" ++ symbol) := by
  have hmarket : Batched.okex.market symbol =
      (OkexMarket.ofPieces (Text.splitOn '-' symbol)).code := by
    rw [Batched.okex.market, OkexMarket.ofInstrument_eq]
  refine ⟨_, rfl, fun m hm hcandlestick => ?_, fun interval hinterval => ?_⟩
  · obtain ⟨channel, hchannel⟩ := exists_okexChannel? hm hcandlestick
    refine ⟨channel, _, hchannel, ?_, rfl, ?_, ?_⟩
    · rw [Batched.okex_topic?_of_channel hchannel, hmarket]
      rfl
    · exact Text.cut?_eq_some (OkexMarket.slash_not_mem_code _) (by simp)
    · exact Text.cut?_eq_some (colon_not_mem_of_okexChannel? hchannel) (by simp)
  · refine ⟨_, ?_, rfl, Text.cut?_eq_some (OkexMarket.slash_not_mem_code _) (by simp)⟩
    rw [Venue.resolve_eq_ok_iff, hinterval, ← hmarket]
    simp [Batched.okex, timedTopic, Stream.fill?, String.append_assoc]

/-- Slashes, colons and dashes in an id do no harm, nor does a `SWAP` in the middle of it. -/
theorem Venue.okex_topics_swap :
    ∃ params : Params, params.get? "interval" = some "60" ∧
      Venue.okex.resolve params .bbo (Batched.okex.topic? "a/SWAP-:b-SWAP" .bbo) =
        .ok (.string "swap/ticker:a/SWAP-:b-SWAP") ∧
      Text.cut? '/' "swap/ticker:a/SWAP-:b-SWAP" = some ("swap", "ticker:a/SWAP-:b-SWAP") ∧
      Text.cut? ':' "ticker:a/SWAP-:b-SWAP" = some ("ticker", "a/SWAP-:b-SWAP") ∧
      Text.cut? '/' "swap/candle60s:a/SWAP-:b-SWAP" = some ("swap", "candle60s:a/SWAP-:b-SWAP") := by
  let params : Params := { entries? := some [("interval", "60")] }
  obtain ⟨market, hmarket, htopics, hcandlesticks⟩ :=
    Venue.okex_topics params "a/SWAP-:b-SWAP"
  have hswap : OkexMarket.ofPieces (Text.splitOn '-' "a/SWAP-:b-SWAP") = .swap := by
    decide +kernel
  obtain rfl := hmarket.trans hswap
  obtain ⟨channel, topic, hchannel, hresolve, rfl, hcut, hcut'⟩ :=
    htopics .bbo (by decide) (by decide)
  obtain rfl := Option.some.inj hchannel
  obtain ⟨candlestick, -, rfl, hcandlestick⟩ := hcandlesticks "60" rfl
  exact ⟨params, rfl, hresolve, hcut, hcut', hcandlestick⟩

end MarketFeed
