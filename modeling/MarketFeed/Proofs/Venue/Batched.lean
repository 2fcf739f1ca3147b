import MarketFeed.Proofs.Frame
import MarketFeed.Proofs.Json.Unique
import MarketFeed.Proofs.Pairs
import MarketFeed.Proofs.Venue.Stream

namespace MarketFeed

/-!
# Batched commands — nothing is lost in writing

The venues that take many topics in one command get them all back when they read the command.

* `Venue.around?` — what stands before and after the symbol in the topic of a message type.
* `Venue.topic?` — the whole topic, as the venues document it.
* `Venue.envelope` — the members of a command around some topics.
* `Venue.fill_topic` — the tables of the formats hold these topics.
* `Venue.commands_batched` — the one command of a selection is the envelope around the topics, in
  the order of the pairs.
-/

open Json

/-! ### What the venues document -/

/-- What stands before and after the symbol in a topic.  On OKX, where the symbol stands apart, the
    first text is the channel. -/
def Venue.around? (v : Venue) (interval? : Option String) (symbol : String) (m : MessageType) :
    Option (String × String) :=
  match v, m with
  | .binance, .trade => some ("", "@aggTrade")
  | .binance, .l2Event => some ("", "@depth@100ms")
  | .binance, .l2TopK => some ("", "@depth5")
  | .binance, .bbo => some ("", "@bookTicker")
  | .binance, .ticker => some ("", "@ticker")
  | .binance, .candlestick => interval?.map fun i => ("", "@kline_" ++ i)
  | .bitmex, .trade => some ("trade:", "")
  | .bitmex, .l2Event => some ("orderBookL2_25:", "")
  | .bitmex, .l2TopK => some ("orderBook10:", "")
  | .bitmex, .bbo => some ("quote:", "")
  | .bitmex, .candlestick => interval?.map fun i => ("tradeBin" ++ i ++ ":", "")
  | .bybit, .trade => some ("trade.", "")
  | .bybit, .l2Event => some ("orderBookL2_25.", "")
  | .bybit, .ticker => some ("instrument_info.100ms.", "")
  | .bybit, .candlestick => interval?.map fun i =>
      ((if isUsdtMargined symbol then "candle." else "klineV2.") ++ i ++ ".", "")
  | .deribit, .trade => some ("trades.", ".100ms")
  | .deribit, .l2Event => some ("book.", ".100ms")
  | .deribit, .l2TopK => some ("book.", ".5.10.100ms")
  | .deribit, .bbo => some ("quote.", "")
  | .deribit, .ticker => some ("ticker.", ".100ms")
  | .deribit, .candlestick => interval?.map fun i => ("chart.trades.", "." ++ i)
  | .okex, .trade => some ((OkexMarket.ofInstrument symbol).code ++ "/trade:", "")
  | .okex, .l2Event => some ((OkexMarket.ofInstrument symbol).code ++ "/depth_l2_tbt:", "")
  | .okex, .l2TopK => some ((OkexMarket.ofInstrument symbol).code ++ "/depth5:", "")
  | .okex, .bbo => some ((OkexMarket.ofInstrument symbol).code ++ "/ticker:", "")
  | .okex, .ticker => some ((OkexMarket.ofInstrument symbol).code ++ "/ticker:", "")
  | .okex, .candlestick => interval?.map fun i =>
      ((OkexMarket.ofInstrument symbol).code ++ "/candle" ++ i ++ "s:", "")
  | .okx, .trade => some ("trades", "")
  | .okx, .l2Event => some ("books-l2-tbt", "")
  | .okx, .l2TopK => some ("books5", "")
  | .okx, .ticker => some ("tickers", "")
  | .okx, .candlestick => interval?.map fun i => ("candle" ++ i, "")
  | _, _ => none

/-- The topic of a message type and a symbol.  The symbol is in it as it was given, but for Binance,
    which takes it in lower case. -/
def Venue.topic? (v : Venue) (interval? : Option String) (symbol : String) (m : MessageType) :
    Option Json :=
  (v.around? interval? symbol m).map fun (before, after) =>
    match v with
    | .binance => .string (before ++ Text.lowercase symbol ++ after)
    | .okx => .object [("channel", .string before), ("instId", .string symbol)]
    | _ => .string (before ++ symbol ++ after)

/-- The members of a command around some topics. -/
def Venue.envelope (v : Venue) (subscribe : Bool) (topics : List Json) : List (String × Json) :=
  match v with
  | .binance =>
      [("id", .number "9527"), ("method", .string (if subscribe then "SUBSCRIBE" else "UNSUBSCRIBE")),
       ("params", .array topics)]
  | .deribit =>
      [("method", .string (if subscribe then "public/subscribe" else "public/unsubscribe")),
       ("params", .object [("channels", .array topics)])]
  | _ =>
      [("op", .string (if subscribe then "subscribe" else "unsubscribe")), ("args", .array topics)]

/-! ### The tables of the formats -/

variable {v : Venue} {format : Batched}

/-- **The tables of the formats hold the documented topics.** -/
theorem Venue.fill_topic (h : v.format = .batched format) (interval? : Option String)
    (symbol : String) (m : MessageType) :
    (format.topic? symbol m).bind (Stream.fill? interval?) = v.topic? interval? symbol m := by
  cases v <;> cases h
  all_goals
    cases m
    all_goals
      simp [Batched.binance, Batched.bitmex, Batched.bybit, Batched.deribit, Batched.okex,
        Batched.okx, Batched.okex.market, textTopic, timedTopic, okxTopic, Stream.fill?,
        Venue.topic?, Venue.around?, Function.comp_def, String.append_assoc]

/-- The topics of a format that resolve are the documented ones. -/
theorem Venue.topic?_of_resolve (h : v.format = .batched format) {params : Params} {symbol : String}
    {m : MessageType} {topic : Json}
    (hresolve : v.resolve params m (format.topic? symbol m) = .ok topic) :
    v.topic? (params.get? "interval") symbol m = some topic := by
  rw [← Venue.fill_topic h]
  exact Venue.resolve_eq_ok_iff.mp hresolve

/-- Topics hold texts alone. -/
theorem Venue.topic?_proper {interval? : Option String} {symbol : String} {m : MessageType}
    {topic : Json} (h : v.topic? interval? symbol m = some topic) : topic.Proper := by
  obtain ⟨around, -, rfl⟩ := Option.map_eq_some_iff.mp h
  cases v <;> simp [Proper, ProperMembers]

/-- The topics of a selection hold texts alone. -/
theorem Venue.properItems_topics (h : v.format = .batched format) {params : Params}
    {messages : List MessageType} {symbols : List String} {topics : List Json}
    (htopics : forEachPair messages symbols (fun m symbol =>
      v.resolve params m (format.topic? symbol m)) = .ok topics) : ProperItems topics := by
  rw [properItems_iff]
  intro topic htopic
  obtain ⟨m, -, symbol, -, hresolve⟩ := exists_of_mem_forEachPair htopics htopic
  exact Venue.topic?_proper (Venue.topic?_of_resolve h hresolve)

/-! ### The envelopes of the formats -/

/-- **A frame of a format stands for the documented envelope.** -/
theorem Venue.frame_spells (h : v.format = .batched format) (subscribe : Bool) {topics : List Json}
    (htopics : ProperItems topics) :
    List.Forall₂ Member.Spells (format.frame subscribe topics).members
      (v.envelope subscribe topics) := by
  have hplain : ∀ name ∈ ["id", "method", "params", "op", "args"], IsPlain name := by decide
  have hword : ∀ word, Cell.Spells (.json (.string word)) (.string word) := fun _ => ⟨trivial, rfl⟩
  have htopics' : Cell.Spells (.json (.array topics)) (.array topics) := ⟨htopics, rfl⟩
  have hop : Cell.Spells (.json (.string (subscribeVerb subscribe)))
      (.string (if subscribe then "subscribe" else "unsubscribe")) := hword _
  -- two formats have an envelope of their own, the other four share one
  cases v <;> cases h
  case binance =>
    have hid : Cell.Spells (.json (.number "9527")) (.number "9527") :=
      ⟨IsDigits.isNumber (by decide) (by decide), rfl⟩
    exact .cons ⟨rfl, hplain "id" (by simp), hid⟩ (.cons ⟨rfl, hplain "method" (by simp), hword _⟩
      (.cons ⟨rfl, hplain "params" (by simp), htopics'⟩ .nil))
  case deribit =>
    have hverb : "public/" ++ subscribeVerb subscribe
        = if subscribe then "public/subscribe" else "public/unsubscribe" := by
      cases subscribe <;> rfl
    have hmethod : Cell.Spells (.json (.string ("public/" ++ subscribeVerb subscribe)))
        (.string (if subscribe then "public/subscribe" else "public/unsubscribe")) :=
      hverb ▸ hword _
    have hparams : Cell.Spells (.json (.object [("channels", .array topics)]))
        (.object [("channels", .array topics)]) := ⟨⟨htopics, trivial⟩, rfl⟩
    exact .cons ⟨rfl, hplain "method" (by simp), hmethod⟩
      (.cons ⟨rfl, hplain "params" (by simp), hparams⟩ .nil)
  all_goals
    exact .cons ⟨rfl, hplain "op" (by simp), hop⟩
      (.cons ⟨rfl, hplain "args" (by simp), htopics'⟩ .nil)

/-! ### Commands -/

/-- **Nothing is lost in a batched command.**  A selection has one command.  It has no control
    characters, and as a JSON text it is the documented envelope and nothing else.  There is one
    topic for each pair of a message type and a symbol, at the place of the pair, with the interval
    and the symbol in it as they were given. -/
theorem Venue.commands_batched (h : v.format = .batched format) {s : Selection}
    {commands : List String} (hcommands : v.commands s = .ok commands) :
    ∃ text topics, commands = [text] ∧ Printable text.toList ∧
      (∀ w, Document w text.toList ↔ w = .object (v.envelope s.subscribe topics)) ∧
      topics.length = s.messages.length * s.symbols.length ∧
      ∀ i j m symbol, s.messages[i]? = some m → s.symbols[j]? = some symbol →
        ∃ topic, topics[i * s.symbols.length + j]? = some topic ∧
          v.topic? (s.params.get? "interval") symbol m = some topic := by
  obtain ⟨frames, hframes, hmap⟩ := bind_eq_ok_iff.mp hcommands
  rw [Venue.frames, h] at hframes
  obtain ⟨topics, htopics, heq⟩ := bind_eq_ok_iff.mp hframes
  obtain rfl := Except.ok.inj heq
  obtain rfl := Except.ok.inj hmap
  -- the topics are the results of the walk over pairs, so each stands at the place of its pair
  have hplace : ∀ i j m symbol, s.messages[i]? = some m → s.symbols[j]? = some symbol →
      ∃ topic, topics[i * s.symbols.length + j]? = some topic ∧
        v.topic? (s.params.get? "interval") symbol m = some topic := by
    intro i j m symbol hi hj
    obtain ⟨topic, htopic, hresolve⟩ := forEachPair_getElem? htopics hi hj
    exact ⟨topic, htopic, Venue.topic?_of_resolve h hresolve⟩
  have hspells := Venue.frame_spells h s.subscribe (Venue.properItems_topics h htopics)
  refine ⟨_, topics, rfl, Frame.printable hspells, ?_,
    forEachPair_length htopics, hplace⟩
  -- the envelope is a value of the text, and a text has one value
  have hdocument := Frame.document hspells
  intro w
  constructor
  · intro hw
    exact hdocument.unique hw
  · rintro rfl
    exact hdocument

/-- OKX reads a symbol with a quote and a line feed as it was given. -/
theorem Venue.commands_batched_okx :
    ∃ text topics,
      Venue.okx.commands
          { messages := [.trade, .candlestick], symbols := ["é", "a\"b\n"]
            params := { entries? := some [("interval", "1m")] } } = .ok [text] ∧
        Document (.object (Venue.okx.envelope true topics)) text.toList ∧
        topics.length = 4 ∧
        topics[3]? = some (.object [("channel", .string "candle1m"), ("instId", .string "a\"b\n")]) := by
  have hcommands : Venue.okx.commands
      { messages := [.trade, .candlestick], symbols := ["é", "a\"b\n"]
        params := { entries? := some [("interval", "1m")] } } =
      .ok ["\x7b\"op\":\"subscribe\",\"args\":[\x7b\"channel\":\"trades\",\"instId\":\"é\"\x7d,\x7b\"channel\":\"trades\",\"instId\":\"a\\\"b\\n\"\x7d,\x7b\"channel\":\"candle1m\",\"instId\":\"é\"\x7d,\x7b\"channel\":\"candle1m\",\"instId\":\"a\\\"b\\n\"\x7d]\x7d"] := by
    decide +kernel
  obtain ⟨text, topics, htext, -, hdocument, hlength, hplace⟩ :=
    Venue.commands_batched (v := .okx) rfl hcommands
  obtain ⟨topic, htopic, heq⟩ := hplace 1 1 .candlestick "a\"b\n" rfl rfl
  refine ⟨text, topics, htext ▸ hcommands, (hdocument _).mpr rfl, hlength, ?_⟩
  have hlast : Venue.topic? .okx (some "1m") "a\"b\n" .candlestick
      = some (.object [("channel", .string "candle1m"), ("instId", .string "a\"b\n")]) := by
    rfl
  exact htopic.trans (heq.symm.trans hlast)

end MarketFeed
