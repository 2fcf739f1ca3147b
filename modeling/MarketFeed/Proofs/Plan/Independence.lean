import MarketFeed.Proofs.Plan.Skipped

namespace MarketFeed

/-!
# What commands depend on

A request carries parameters by any name, and an entry of a plan carries its market.  Little of this
has a say in the commands.

* `Request.withParams` — a request with other parameters, or with none.
* `Request.ReadsInterval` — the request is for candlesticks of a venue that has them.
* `Request.build_withParams_congr` — such a request depends on the interval, and no other request
  depends on any parameter.
* `Plan.Entry.build_withMarket` — one listed market is as good as another.
* `build_eq_of_agree` — what two requests, or two entries, have to agree on.
-/

/-! ### Parameters -/

/-- The request with these parameters; if there are none given, with empty ones. -/
def Request.withParams (r : Request) (given? : Option Params) : Request :=
  { r with selection := { r.selection with params := given?.getD {} } }

/-- The request is for candlesticks, among others, of a venue that has a channel for them. -/
def Request.ReadsInterval (r : Request) : Prop :=
  .candlestick ∈ r.selection.messages ∧
    ∃ e v, Vocabulary.parse? (α := Exchange) r.exchange = some e ∧ e.venue? = some v ∧
      .candlestick ∈ v.messages

variable {r : Request} {given? given'? : Option Params}

/-- Where no parameters are given, none has a value. -/
theorem Params.get?_getD_empty (given? : Option Params) (name : String) :
    (given?.getD {}).get? name = given?.bind (·.get? name) := by
  cases given? <;> rfl

/-- FTX has no candlesticks, and where there is no format nothing is read. -/
theorem Request.not_readsInterval_of_exchange
    (h : ∀ e, Vocabulary.parse? (α := Exchange) r.exchange = some e → e = .ftx ∨ e.venue? = none) :
    ¬ r.ReadsInterval := by
  rintro ⟨-, e, v, he, hv, hm⟩
  rcases h e he with rfl | hnone
  · obtain rfl := Option.some.inj hv
    exact absurd hm (by decide)
  · rw [hnone] at hv
    cases hv

/-- Two requests that differ in their parameters build the same, unless they read the interval and
    differ in it. -/
theorem Request.build_withParams_congr
    (h : r.ReadsInterval → given?.bind (·.get? "interval") = given'?.bind (·.get? "interval")) :
    (r.withParams given?).build = (r.withParams given'?).build := by
  refine Request.build_congr_params (r := r.withParams given'?) fun e v he hv hmem hvenue => ?_
  have hinterval := h ⟨hmem, e, v, he, hv, hvenue⟩
  -- what is said of missing parameters holds of empty ones
  rw [← Params.get?_getD_empty, ← Params.get?_getD_empty] at hinterval
  exact hinterval

/-! ### Markets -/

/-- An entry builds the same for each market that its exchange lists. -/
theorem Plan.Entry.build_withMarket {entry : Plan.Entry} {e : Exchange} {market : MarketType}
    (he : Vocabulary.parse? entry.exchange = some e) (hlisted : entry.market ∈ e.marketTypes)
    (hlisted' : market ∈ e.marketTypes) : Plan.Entry.build { entry with market } = entry.build := by
  have hvalid : entry.IsValid := ⟨e, he, hlisted⟩
  have hvalid' : Plan.Entry.IsValid { entry with market } := ⟨e, he, hlisted'⟩
  rw [Plan.Entry.build_of_isValid hvalid, Plan.Entry.build_of_isValid hvalid']
  rfl

/-! ### Both -/

/-- **What commands depend on.**  Two requests that differ in their parameters alone have the same
    commands or fail with the same error, if they agree on the interval; and whatever their
    parameters are, if they are for no candlesticks, or if their exchange is FTX, or unknown, or one
    without a format.  Parameters that are missing count as empty.  Two entries that differ in their
    market alone do so as well, if the exchange lists both markets.  What is logged on the way is the
    same, too. -/
theorem build_eq_of_agree :
    (∀ (r : Request) (given? given'? : Option Params),
      (given?.bind (·.get? "interval") = given'?.bind (·.get? "interval") ∨
        .candlestick ∉ r.selection.messages ∨
        ∀ e, Vocabulary.parse? (α := Exchange) r.exchange = some e → e = .ftx ∨ e.venue? = none) →
      (r.withParams given?).build = (r.withParams given'?).build) ∧
    ∀ (entry : Plan.Entry) (e : Exchange) (market : MarketType),
      Vocabulary.parse? entry.exchange = some e → entry.market ∈ e.marketTypes →
      market ∈ e.marketTypes → Plan.Entry.build { entry with market } = entry.build := by
  refine ⟨fun r given? given'? hagree => Request.build_withParams_congr fun hreads => ?_,
    fun entry e market he hlisted hlisted' => Plan.Entry.build_withMarket he hlisted hlisted'⟩
  rcases hagree with hinterval | hmessages | hexchange
  · exact hinterval
  · exact absurd hreads.1 hmessages
  · exact absurd hreads (Request.not_readsInterval_of_exchange hexchange)

/-- OKX reads the interval of a candlestick and nothing else; FTX reads nothing. -/
theorem build_eq_of_agree_okx :
    ∃ (okx ftx : Request) (params : Params) (built : Built) (entry : Plan.Entry),
      params.get? "channel" = some "tickers" ∧
      (okx.withParams (some params)).build = .ok built ∧
      (okx.withParams (some { entries? := some [("interval", "1m")] })).build = .ok built ∧
      (ftx.withParams none).build = (ftx.withParams (some params)).build ∧
      Plan.Entry.build { entry with market := .europeanOption } =
        Plan.Entry.build { entry with market := .spot } := by
  let okx : Request := {
    exchange := "okx"
    selection := { messages := [.candlestick], symbols := ["BTC-USDT"] } }
  let ftx : Request := { okx with exchange := "FTX" }
  let params : Params := { entries? := some [("channel", "tickers"), ("interval", "1m")] }
  let entry : Plan.Entry := { exchange := "okx", market := .spot, selection := okx.selection }
  have hokx : Vocabulary.parse? (α := Exchange) "okx" = some .okx := by decide +kernel
  have hftx : Vocabulary.parse? (α := Exchange) "FTX" = some .ftx := by decide +kernel
  obtain ⟨hparams, hmarket⟩ := build_eq_of_agree
  have hbuilt : (okx.withParams (some params)).build = .ok {
      commands := ["\x7b\"op\":\"subscribe\",\"args\":[\x7b\"channel\":\"candle1m\",\"instId\":\"BTC-USDT\"\x7d]\x7d"]
      events := [builtEvent .okx [""] [""]] } := by decide +kernel
  have hother := hparams okx (some params) (some { entries? := some [("interval", "1m")] }) (.inl rfl)
  refine ⟨okx, ftx, params, _, entry, rfl, hbuilt, hother ▸ hbuilt, ?_, ?_⟩
  · exact hparams ftx none (some params)
      (.inr (.inr fun e he => .inl (Option.some.inj (he.symm.trans hftx))))
  · exact hmarket { entry with market := .spot } .okx .europeanOption hokx (by decide) (by decide)

end MarketFeed
