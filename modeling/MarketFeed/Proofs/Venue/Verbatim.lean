import MarketFeed.Proofs.Venue.Pairwise
import MarketFeed.Proofs.Venue.Single
import MarketFeed.Proofs.Verbatim

namespace MarketFeed

/-!
# Single commands — which symbols arrive as they were given

* `Venue.layout?` — how the command of each message type carries its symbol.
* `Venue.hasLayout_of_resolve` — the frames of the venue have these layouts.
* `isPlain_layout_iff` — what is set between quotes is plain when the symbol is, and with it the
  interval of a candlestick.
* `Venue.commands_isReadIn_iff` — just then a command is read as it was meant.
-/

open Json

/-! ### Layouts -/

/-- The layout of a command of Huobi.  One that asks for increments says so in a member of its
    own. -/
def huobiLayout (subscribe : Bool) (topic : String) : Layout where
  names :=
    if isHuobiIncremental topic then [verb, "data_type", "id"]
    else [verb, "id"]
  carrier := verb
  text := topic
where
  /-- The direction. -/
  verb : String := if subscribe then "sub" else "unsub"

/-- How the command of a message type carries its symbol, if the interval is there when it is
    needed. -/
def Venue.layout? (v : Venue) (subscribe : Bool) (interval? : Option String) (symbol : String)
    (m : MessageType) : Option Layout :=
  match v, m with
  | .bitfinex, .trade | .bitfinex, .ticker =>
      some { names := ["event", "channel", "symbol"], carrier := "symbol", text := symbol }
  | .bitfinex, .l2Event =>
      some {
        names := ["event", "channel", "symbol", "prec", "frec", "len"]
        carrier := "symbol", text := symbol }
  | .bitfinex, .l3Event | .bitfinex, .bbo =>
      some {
        names := ["event", "channel", "symbol", "prec", "len"]
        carrier := "symbol", text := symbol }
  | .bitfinex, .candlestick =>
      interval?.map fun i => {
        names := ["event", "channel", "key"]
        carrier := "key", text := "trade:" ++ i ++ ":" ++ symbol }
  | .ftx, .trade | .ftx, .l2Event | .ftx, .bbo =>
      some { names := ["op", "channel", "market"], carrier := "market", text := symbol }
  | .huobi, _ =>
      (huobiChannel? interval? symbol m).map fun c => huobiLayout subscribe (huobiTopic symbol c)
  | _, _ => none

variable {v : Venue} {subscribe : Bool} {interval? : Option String} {symbol : String}
  {m : MessageType} {f : Frame} {l : Layout}

/-- A command of Huobi has the layout of its topic. -/
theorem hasLayout_huobiFrame (subscribe : Bool) (topic : String) :
    (huobiFrame subscribe topic).HasLayout (huobiLayout subscribe topic) := by
  unfold huobiFrame huobiLayout isHuobiIncremental
  split
  · exact ⟨rfl, by cases subscribe <;> simp [huobiLayout.verb], _, .head _, rfl, rfl⟩
  · exact ⟨rfl, by cases subscribe <;> simp [huobiLayout.verb], _, .head _, rfl, rfl⟩

/-- **The frames of a venue with single commands have the layouts of the table.** -/
theorem Venue.hasLayout_of_resolve {format : Single} (h : v.format = .single format)
    {params : Params} (hf : v.resolve params m (format.frame? subscribe symbol m) = .ok f) :
    ∃ l, v.layout? subscribe (params.get? "interval") symbol m = some l ∧ f.HasLayout l := by
  rw [Venue.resolve_eq_ok_iff] at hf
  cases v <;> cases h
  case bitfinex =>
    cases m with
    | trade | ticker | l2Event | l3Event | bbo =>
      obtain rfl := Option.some.inj hf
      exact ⟨_, rfl, rfl, by simp, _, List.mem_append_right _ (.head _), rfl, rfl⟩
    | candlestick =>
      obtain ⟨i, hi, rfl⟩ := Option.map_eq_some_iff.mp hf
      exact ⟨_, by rw [hi]; rfl, rfl, by simp, _, List.mem_append_right _ (.head _), rfl, rfl⟩
    | _ => cases hf
  case ftx =>
    cases m with
    | trade | l2Event | bbo =>
      obtain rfl := Option.some.inj hf
      exact ⟨_, rfl, rfl, by simp, _, .tail _ (.tail _ (.head _)), rfl, rfl⟩
    | _ => cases hf
  case huobi =>
    rw [Single.huobi_frame?_fill] at hf
    obtain ⟨channel, hchannel, rfl⟩ := Option.map_eq_some_iff.mp hf
    exact ⟨_, by rw [Venue.layout?, hchannel, Option.map_some], hasLayout_huobiFrame _ _⟩

/-! ### Plain symbols -/

/-- **What is set between quotes is plain** when the symbol is, and with it the interval of a
    candlestick. -/
theorem isPlain_layout_iff (h : v.layout? subscribe interval? symbol m = some l) :
    IsPlain l.text ↔
      IsPlain symbol ∧ (m = .candlestick → ∀ i, interval? = some i → IsPlain i) := by
  cases v with
  | bitfinex =>
    cases m with
    | candlestick =>
      obtain ⟨i, rfl, rfl⟩ := Option.map_eq_some_iff.mp h
      have htrade : IsPlain "trade:" := by decide
      have hcolon : IsPlain ":" := by decide
      simp only [isPlain_append_iff]
      simp [htrade, hcolon, and_comm]
    | trade | ticker | l2Event | l3Event | bbo =>
      obtain rfl := Option.some.inj h
      simp
    | _ => cases h
  | ftx =>
    cases m with
    | trade | l2Event | bbo =>
      obtain rfl := Option.some.inj h
      simp
    | _ => cases h
  | huobi =>
    obtain ⟨channel, hchannel, rfl⟩ := Option.map_eq_some_iff.mp h
    have hmarket : IsPlain "market." := by decide
    have hdot : IsPlain "." := by decide
    have htopic : IsPlain (huobiTopic symbol channel) ↔ IsPlain symbol ∧ IsPlain channel := by
      simp only [huobiTopic, isPlain_append_iff]
      simp [hmarket, hdot]
    change IsPlain (huobiTopic symbol channel) ↔ _
    rw [htopic]
    rcases huobiChannel?_cases hchannel with ⟨hm, hplain⟩ | ⟨i, rfl, rfl, rfl⟩
    · simp [hm, hplain]
    · have hkline : IsPlain "kline." := by decide
      simp [isPlain_append_iff, hkline]
  | _ => cases h

/-! ### Commands -/

/-- A supported message type has a command for every symbol, if the interval is there when it is
    needed. -/
theorem Venue.exists_frame {format : Single} (h : v.format = .single format) (hm : m ∈ v.messages)
    (subscribe : Bool) (params : Params) (symbol : String)
    (hinterval : m = .candlestick → (params.get? "interval").isSome) :
    ∃ f, v.resolve params m (format.frame? subscribe symbol m) = .ok f ∧
      v.commands { messages := [m], symbols := [symbol], subscribe, params } = .ok [f.text] := by
  have hoffered : v.refusal? params m = none := (v.refusal?_eq_none_iff _ _).mpr ⟨hm, hinterval⟩
  obtain ⟨f, hf⟩ := Venue.resolve_eq_ok (Venue.carries_frames h subscribe symbol) hoffered
  refine ⟨f, hf, ?_⟩
  have hpairs : Selection.pairs { messages := [m], symbols := [symbol], subscribe, params } =
      [(m, symbol)] := rfl
  rw [Venue.commands_of_single h, hpairs, joined_singleton, hf, fmap_ok, List.map_singleton]

/-- **Which symbols arrive as they were given.**  Bitfinex, FTX and Huobi set the symbol between
    quotes as it is.  For every message type they support there is a command, and it is one JSON
    object with the names of the format, in order, whose carrier holds the very text that was set
    there, just when the symbol is plain: no quote, no backslash and no control character.  The
    interval of a candlestick stands beside the symbol, so it has to be plain as well. -/
theorem Venue.commands_isReadIn_iff (hv : v ∈ [.bitfinex, .ftx, .huobi]) (hm : m ∈ v.messages)
    (subscribe : Bool) (params : Params) (symbol : String)
    (hinterval : m = .candlestick → (params.get? "interval").isSome) :
    ∃ command layout,
      v.commands { messages := [m], symbols := [symbol], subscribe, params } = .ok [command] ∧
      v.layout? subscribe (params.get? "interval") symbol m = some layout ∧
      (layout.IsReadIn command ↔
        IsPlain symbol ∧ (m = .candlestick → ∀ i, params.get? "interval" = some i → IsPlain i)) := by
  cases h : v.format with
  | batched format =>
    -- none of these three is batched
    simp only [List.mem_cons, List.not_mem_nil, or_false] at hv
    rcases hv with rfl | rfl | rfl <;> cases h
  | single format =>
    obtain ⟨f, hf, hcommands⟩ := Venue.exists_frame h hm subscribe params symbol hinterval
    obtain ⟨l, hl, hlayout⟩ := Venue.hasLayout_of_resolve h hf
    -- the text that decides whether the frame is intact is the one its layout names
    obtain ⟨text, hsplices, -⟩ := Venue.splicesFor_of_resolve h hf
    obtain ⟨p, hp, -, hvalue⟩ := hlayout.carrier
    obtain rfl := hsplices.eq_of_spliced hp hvalue
    exact ⟨_, l, hcommands, hl, (hlayout.isReadIn_iff hsplices).trans (isPlain_layout_iff hl)⟩

/-- A key of Bitfinex is read as it was given, unless it is written with an escape. -/
theorem Venue.commands_isReadIn_bitfinex :
    ∃ (params : Params) (key escaped : Layout) (command command' : String),
      params.get? "interval" = some "1m" ∧
      Venue.bitfinex.commands
        { messages := [.candlestick], symbols := ["tBTCUSD"], params } = .ok [command] ∧
      key.carrier = "key" ∧ key.text = "trade:1m:tBTCUSD" ∧ key.IsReadIn command ∧
      Venue.bitfinex.commands
        { messages := [.candlestick], symbols := ["t\\u0042TCUSD"], params } = .ok [command'] ∧
      escaped.text = "trade:1m:t\\u0042TCUSD" ∧ ¬ escaped.IsReadIn command' := by
  let params : Params := { entries? := some [("interval", "1m")] }
  have hmem : Venue.bitfinex ∈ [.bitfinex, .ftx, .huobi] := by decide
  have hcandles : MessageType.candlestick ∈ Venue.bitfinex.messages := by decide
  have hplain : IsPlain "tBTCUSD" ∧ IsPlain "1m" := by decide
  have hescape : ¬ IsPlain "t\\u0042TCUSD" := by decide
  obtain ⟨command, key, hcommand, hkey, hread⟩ :=
    Venue.commands_isReadIn_iff hmem hcandles true params "tBTCUSD" fun _ => rfl
  obtain ⟨command', escaped, hcommand', hescaped, hread'⟩ :=
    Venue.commands_isReadIn_iff hmem hcandles true params "t\\u0042TCUSD" fun _ => rfl
  obtain rfl := Option.some.inj hkey
  obtain rfl := Option.some.inj hescaped
  refine ⟨params, _, _, command, command', rfl, hcommand, rfl, rfl, hread.mpr ⟨hplain.1, ?_⟩,
    hcommand', rfl, fun h => hescape (hread'.mp h).1⟩
  rintro - i hi
  obtain rfl := Option.some.inj hi
  exact hplain.2

end MarketFeed
