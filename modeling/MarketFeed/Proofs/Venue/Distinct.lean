import Mathlib.Data.List.Pairwise
import MarketFeed.Proofs.Json.Compact
import MarketFeed.Proofs.Venue.Batched
import MarketFeed.Proofs.Venue.Pairwise

namespace MarketFeed

/-!
# Distinct subscriptions have distinct commands

What stands before the symbol in a text is a prefix code: no beginning is also the beginning of
another one.  Two texts are then equal only if they begin alike, and so only if they hold the same
symbol, whatever characters are in it.

* `Template` — a text with a place for the symbol; `Template.Apart` — two of them that never agree.
* `Template.eq_of_text_eq` — a text tells which of some templates apart from each other it was made
  from, and with which symbol.
* `Venue.templates`, `Venue.pairwise_apart_templates` — the templates of a venue are apart.
* `Venue.Holds`, `Venue.Holds.pair_eq` — a text made from a template of the venue.
* `Venue.holds_of_around`, `Single.holds_bitfinex`, `Single.holds_ftx` — the formats write such
  texts.
* `Venue.commands_only_eq_iff` — the commands of a message type and a symbol are those of no other
  pair.
-/

open Json

/-! ### Templates -/

/-- A text with a place for a symbol, and perhaps one for the interval before it. -/
structure Template where
  /-- The message types whose texts these are. -/
  messages : List MessageType
  /-- How the text begins. -/
  stem : String
  /-- What parts the interval from the symbol, if the interval follows the stem. -/
  joint? : Option String := none
  /-- What stands behind the symbol. -/
  tail : String := ""
  deriving DecidableEq

/-- What stands before the symbol, if the interval is there when it is needed. -/
def Template.before? (p : Template) (interval? : Option String) : Option String :=
  match p.joint? with
  | none => some p.stem
  | some joint => interval?.map fun i => p.stem ++ i ++ joint

/-- Texts of the two are told apart by how they begin, or by how they end. -/
def Template.Apart (p q : Template) : Prop :=
  (¬ p.stem.toList <+: q.stem.toList ∧ ¬ q.stem.toList <+: p.stem.toList) ∨
    (¬ p.tail.toList <:+ q.tail.toList ∧ ¬ q.tail.toList <:+ p.tail.toList)

instance (p q : Template) : Decidable (p.Apart q) := inferInstanceAs (Decidable (_ ∨ _))

instance : Std.Symm Template.Apart := ⟨fun _ _ h => h.imp And.symm And.symm⟩

section Templates

variable {p q : Template} {interval? : Option String} {before before' s s' : String}

/-- A template begins with its stem. -/
theorem Template.stem_begins (h : p.before? interval? = some before) :
    p.stem.toList <+: before.toList := by
  unfold Template.before? at h
  split at h
  · cases h
    exact List.prefix_rfl
  · obtain ⟨i, -, rfl⟩ := Option.map_eq_some_iff.mp h
    rw [String.append_assoc, String.toList_append]
    exact List.prefix_append _ _

/-- No text of a template is a text of a template apart from it. -/
theorem Template.Apart.text_ne (h : p.Apart q) (hp : p.before? interval? = some before)
    (hq : q.before? interval? = some before') :
    before ++ s ++ p.tail ≠ before' ++ s' ++ q.tail := by
  intro heq
  have hchars : before.toList ++ (s.toList ++ p.tail.toList)
      = before'.toList ++ (s'.toList ++ q.tail.toList) := by
    simpa using congrArg String.toList heq
  rcases h with ⟨hpq, hqp⟩ | ⟨hpq, hqp⟩
  · -- both stems begin the same text, so one of them begins the other
    have hstem := (stem_begins hp).trans (List.prefix_append _ (s.toList ++ p.tail.toList))
    have hstem' := (stem_begins hq).trans (List.prefix_append _ (s'.toList ++ q.tail.toList))
    rw [hchars] at hstem
    exact (List.prefix_or_prefix_of_prefix hstem hstem').elim hpq hqp
  · -- likewise both tails end it
    rw [← List.append_assoc, ← List.append_assoc] at hchars
    have htail := List.suffix_append (before.toList ++ s.toList) p.tail.toList
    have htail' := List.suffix_append (before'.toList ++ s'.toList) q.tail.toList
    rw [hchars] at htail
    exact (List.suffix_or_suffix_of_suffix htail htail').elim hpq hqp

/-- **A text tells which of some templates apart from each other it was made from**, and with which
    symbol. -/
theorem Template.eq_of_text_eq {templates : List Template} (hapart : templates.Pairwise Apart)
    (hp : p ∈ templates) (hq : q ∈ templates) (hbefore : p.before? interval? = some before)
    (hbefore' : q.before? interval? = some before')
    (h : before ++ s ++ p.tail = before' ++ s' ++ q.tail) : p = q ∧ s = s' := by
  obtain rfl : p = q := by
    by_contra hne
    exact (hapart.forall hp hq hne).text_ne hbefore hbefore' h
  -- with the same interval, what stands before the symbol is the same as well
  obtain rfl : before = before' := Option.some.inj (hbefore.symm.trans hbefore')
  exact ⟨rfl, String.append_right_inj _ |>.mp (String.append_left_inj _ |>.mp h)⟩

end Templates

/-! ### The templates of the venues -/

/-- The topics of an OKEx market. -/
def OkexMarket.templates (market : OkexMarket) : List Template :=
  [{ messages := [.trade], stem := market.code ++ "/trade:" },
   { messages := [.l2Event], stem := market.code ++ "/depth_l2_tbt:" },
   { messages := [.l2TopK], stem := market.code ++ "/depth5:" },
   { messages := [.bbo, .ticker], stem := market.code ++ "/ticker:" },
   { messages := [.candlestick], stem := market.code ++ "/candle", joint? := some "s:" }]

/-- The texts of a venue.  They are the topics of a venue with batched commands, and the commands of
    the others.  On OKX, where the symbol stands apart, they are the channels. -/
def Venue.templates (v : Venue) (subscribe : Bool) : List Template :=
  match v with
  | .bitfinex =>
      let head := "\x7b\"event\":\"" ++ subscribeVerb subscribe ++ "\", \"channel\":\""
      [{ messages := [.trade], stem := head ++ "trades\", \"symbol\":\"", tail := "\"\x7d" },
       { messages := [.ticker], stem := head ++ "ticker\", \"symbol\":\"", tail := "\"\x7d" },
       { messages := [.l2Event], stem := head ++ "book\", \"symbol\":\""
         tail := "\", \"prec\":\"P0\", \"frec\":\"F0\", \"len\":25\x7d" },
       { messages := [.l3Event], stem := head ++ "book\", \"symbol\": \""
         tail := "\", \"prec\":\"R0\", \"len\": 25\x7d" },
       { messages := [.bbo], stem := head ++ "book\", \"symbol\": \""
         tail := "\", \"prec\":\"R0\", \"len\": 1\x7d" },
       { messages := [.candlestick], stem := head ++ "candles\", \"key\":\"trade:"
         joint? := some ":", tail := "\"\x7d" }]
  | .bitmex =>
      [{ messages := [.trade], stem := "trade:" },
       { messages := [.l2Event], stem := "orderBookL2_25:" },
       { messages := [.l2TopK], stem := "orderBook10:" },
       { messages := [.bbo], stem := "quote:" },
       { messages := [.candlestick], stem := "tradeBin", joint? := some ":" }]
  | .bybit =>
      [{ messages := [.trade], stem := "trade." },
       { messages := [.l2Event], stem := "orderBookL2_25." },
       { messages := [.ticker], stem := "instrument_info.100ms." },
       { messages := [.candlestick], stem := "candle.", joint? := some "." },
       { messages := [.candlestick], stem := "klineV2.", joint? := some "." }]
  | .ftx =>
      let head := "\x7b\"op\":\"" ++ subscribeVerb subscribe ++ "\",\"channel\":\""
      [{ messages := [.trade], stem := head ++ "trades\",\"market\":\"", tail := "\"\x7d" },
       { messages := [.l2Event], stem := head ++ "orderbook\",\"market\":\"", tail := "\"\x7d" },
       { messages := [.bbo], stem := head ++ "ticker\",\"market\":\"", tail := "\"\x7d" }]
  | .okex => [OkexMarket.spot, .futures, .swap, .option].flatMap OkexMarket.templates
  | .okx =>
      [{ messages := [.trade], stem := "trades" },
       { messages := [.l2Event], stem := "books-l2-tbt" },
       { messages := [.l2TopK], stem := "books5" },
       { messages := [.ticker], stem := "tickers" },
       { messages := [.candlestick], stem := "candle", joint? := some "" }]
  | _ => []

/-- **The beginnings of a venue's texts are a prefix code**, but for the two raw books of Bitfinex,
    whose ends differ. -/
theorem Venue.pairwise_apart_templates (v : Venue) (subscribe : Bool) :
    (v.templates subscribe).Pairwise Template.Apart := by
  cases v <;> cases subscribe <;> decide +kernel

/-- The message types come over one channel: best bid and offer come with the ticker on OKEx. -/
def Venue.SharesChannel (v : Venue) (m m' : MessageType) : Prop :=
  m = m' ∨ v = .okex ∧ m ∈ [.bbo, .ticker] ∧ m' ∈ [.bbo, .ticker]

instance (v : Venue) (m m' : MessageType) : Decidable (v.SharesChannel m m') :=
  inferInstanceAs (Decidable (_ ∨ _))

/-- Message types with one template share a channel. -/
theorem Venue.sharesChannel_of_template (v : Venue) (subscribe : Bool) :
    ∀ p ∈ v.templates subscribe, ∀ m ∈ p.messages, ∀ m' ∈ p.messages, v.SharesChannel m m' := by
  cases v <;> cases subscribe <;> decide +kernel

/-! ### Texts with a symbol -/

variable {v : Venue} {subscribe : Bool} {interval? : Option String} {symbol symbol' : String}
  {m m' : MessageType}

/-- The text holds the symbol at its place in a template of the venue for the message type. -/
def Venue.Holds (v : Venue) (subscribe : Bool) (interval? : Option String) (symbol : String)
    (m : MessageType) (text : String) : Prop :=
  ∃ p ∈ v.templates subscribe, m ∈ p.messages ∧
    (p.before? interval?).map (· ++ symbol ++ p.tail) = some text

/-- **A text holds one symbol for one message type.** -/
theorem Venue.Holds.pair_eq {text : String} (h : v.Holds subscribe interval? symbol m text)
    (h' : v.Holds subscribe interval? symbol' m' text) :
    symbol = symbol' ∧ v.SharesChannel m m' := by
  obtain ⟨p, hp, hm, htext⟩ := h
  obtain ⟨q, hq, hm', htext'⟩ := h'
  obtain ⟨before, hbefore, rfl⟩ := Option.map_eq_some_iff.mp htext
  obtain ⟨before', hbefore', heq⟩ := Option.map_eq_some_iff.mp htext'
  obtain ⟨rfl, rfl⟩ := Template.eq_of_text_eq (v.pairwise_apart_templates subscribe) hp hq
    hbefore hbefore' heq.symm
  exact ⟨rfl, v.sharesChannel_of_template subscribe p hp m hm m' hm'⟩

/-! ### Topics -/

/-- What stands around the symbol in a topic is a template of the venue, whatever is put there. -/
theorem Venue.holds_of_around (hv : v ∈ [.bitmex, .bybit, .okex, .okx])
    {around : String × String} (h : v.around? interval? symbol m = some around) (text : String) :
    v.Holds subscribe interval? text m (around.1 ++ text ++ around.2) := by
  suffices htemplate : ∃ p ∈ v.templates subscribe, m ∈ p.messages ∧
      (p.before? interval?).map (·, p.tail) = v.around? interval? symbol m by
    obtain ⟨p, hp, hm, hpair⟩ := htemplate
    obtain ⟨before, hbefore, rfl⟩ := Option.map_eq_some_iff.mp (hpair.trans h)
    exact ⟨p, hp, hm, by rw [hbefore, Option.map_some]⟩
  simp only [List.mem_cons, List.not_mem_nil, or_false] at hv
  rcases hv with rfl | rfl | rfl | rfl
  · cases m with
    | trade | l2Event | l2TopK | bbo | candlestick =>
      simp [Venue.around?, Venue.templates, Template.before?, Function.comp_def]
    | _ => cases h
  · cases m with
    | trade | l2Event | ticker => simp [Venue.around?, Venue.templates, Template.before?]
    | candlestick =>
      -- the shape of the symbol decides which of two templates it is
      cases husdt : isUsdtMargined symbol
      all_goals simp [Venue.around?, Venue.templates, Template.before?, Function.comp_def, husdt]
    | _ => cases h
  · -- the shape of the symbol decides the market
    have hmarket : ∀ p ∈ (OkexMarket.ofInstrument symbol).templates,
        p ∈ Venue.okex.templates subscribe := by
      intro p hp
      refine List.mem_flatMap.mpr ⟨OkexMarket.ofInstrument symbol, ?_, hp⟩
      cases OkexMarket.ofInstrument symbol <;> decide
    suffices htemplate : ∃ p ∈ (OkexMarket.ofInstrument symbol).templates, m ∈ p.messages ∧
        (p.before? interval?).map (·, p.tail) = Venue.around? .okex interval? symbol m by
      obtain ⟨p, hp, hpair⟩ := htemplate
      exact ⟨p, hmarket p hp, hpair⟩
    cases m with
    | trade | l2Event | l2TopK | bbo | ticker | candlestick =>
      simp [Venue.around?, OkexMarket.templates, Template.before?, Function.comp_def]
    | _ => cases h
  · cases m with
    | trade | l2Event | l2TopK | ticker | candlestick =>
      simp [Venue.around?, Venue.templates, Template.before?, Function.comp_def]
    | _ => cases h

/-- On OKX nothing follows the channel. -/
theorem Venue.around?_okx {around : String × String}
    (h : Venue.around? .okx interval? symbol m = some around) : around.2 = "" := by
  cases m with
  | trade | l2Event | l2TopK | ticker => exact Option.some.inj h ▸ rfl
  | candlestick =>
    obtain ⟨i, -, rfl⟩ := Option.map_eq_some_iff.mp h
    rfl
  | _ => cases h

/-- **A topic is for one symbol and one message type.** -/
theorem Venue.topic?_inj (hv : v ∈ [.bitmex, .bybit, .okex, .okx]) {topic : Json}
    (h : v.topic? interval? symbol m = some topic)
    (h' : v.topic? interval? symbol' m' = some topic) :
    symbol = symbol' ∧ v.SharesChannel m m' := by
  obtain ⟨around, haround, htopic⟩ := Option.map_eq_some_iff.mp h
  obtain ⟨around', haround', htopic'⟩ := Option.map_eq_some_iff.mp h'
  have hholds : ∀ text, v.Holds true interval? text m (around.1 ++ text ++ around.2) :=
    Venue.holds_of_around hv haround
  have hholds' : ∀ text, v.Holds true interval? text m' (around'.1 ++ text ++ around'.2) :=
    Venue.holds_of_around hv haround'
  have heq := htopic.trans htopic'.symm
  simp only [List.mem_cons, List.not_mem_nil, or_false] at hv
  rcases hv with rfl | rfl | rfl | rfl
  · exact (hholds symbol).pair_eq (string.inj heq ▸ hholds' symbol')
  · exact (hholds symbol).pair_eq (string.inj heq ▸ hholds' symbol')
  · exact (hholds symbol).pair_eq (string.inj heq ▸ hholds' symbol')
  · -- the symbol stands apart, and the channel tells the message type
    have hmembers : around.1 = around'.1 ∧ symbol = symbol' := by simpa using heq
    have haround : around = around' :=
      Prod.ext hmembers.1 ((Venue.around?_okx haround).trans (Venue.around?_okx haround').symm)
    exact ⟨hmembers.2, ((hholds "").pair_eq (haround ▸ hholds' "")).2⟩

/-! ### Commands with a text between quotes -/

/-- A frame that sets the symbol between quotes holds it in the template with these texts around. -/
theorem Venue.holds_of_splice {p : Template} (k : Nat) (hp : (v.templates subscribe)[k]? = some p)
    (hm : m ∈ p.messages) (hjoint : p.joint? = none) (before : List Member) (member : Member)
    (after : List Member)
    (h : Frame.opening before member ++ "\"" = p.stem ∧ "\"" ++ Frame.closing after = p.tail) :
    v.Holds subscribe interval? symbol m
      (Frame.text { members := before ++ { member with value := .spliced symbol } :: after }) := by
  refine ⟨p, List.mem_of_getElem? hp, hm, ?_⟩
  rw [Template.before?, hjoint, Option.map_some, Frame.text_of_splice, h.1, h.2]

/-- The commands of Bitfinex hold the symbol. -/
theorem Single.holds_bitfinex {f : Frame}
    (h : (Single.bitfinex.frame? subscribe symbol m).bind (Stream.fill? interval?) = some f) :
    Venue.bitfinex.Holds subscribe interval? symbol m f.text := by
  -- a message type finds its template at a place of the table
  cases m with
  | trade =>
    obtain rfl := Option.some.inj h
    exact Venue.holds_of_splice 0 rfl (.head _) rfl (bitfinexHead subscribe "trades")
      (Member.splice "symbol" "").apart [] (by cases subscribe <;> decide +kernel)
  | ticker =>
    obtain rfl := Option.some.inj h
    exact Venue.holds_of_splice 1 rfl (.head _) rfl (bitfinexHead subscribe "ticker")
      (Member.splice "symbol" "").apart [] (by cases subscribe <;> decide +kernel)
  | l2Event =>
    obtain rfl := Option.some.inj h
    exact Venue.holds_of_splice 2 rfl (.head _) rfl (bitfinexHead subscribe "book")
      (Member.splice "symbol" "").apart
      [(Member.word "prec" "P0").apart, (Member.word "frec" "F0").apart,
       Member.apart { name := "len", value := .json (.number "25") }]
      (by cases subscribe <;> decide +kernel)
  | l3Event =>
    obtain rfl := Option.some.inj h
    exact Venue.holds_of_splice 3 rfl (.head _) rfl (bitfinexHead subscribe "book")
      (Member.splice "symbol" "").apart.loose
      [(Member.word "prec" "R0").apart,
       Member.apart (Member.loose { name := "len", value := .json (.number "25") })]
      (by cases subscribe <;> decide +kernel)
  | bbo =>
    obtain rfl := Option.some.inj h
    exact Venue.holds_of_splice 4 rfl (.head _) rfl (bitfinexHead subscribe "book")
      (Member.splice "symbol" "").apart.loose
      [(Member.word "prec" "R0").apart,
       Member.apart (Member.loose { name := "len", value := .json (.number "1") })]
      (by cases subscribe <;> decide +kernel)
  | candlestick =>
    obtain ⟨i, rfl, rfl⟩ := Option.map_eq_some_iff.mp h
    -- the key holds the interval as well
    have hstem : Frame.opening (bitfinexHead subscribe "candles") (Member.splice "key" "").apart
          ++ "\"" ++ "trade:" =
        "\x7b\"event\":\"" ++ subscribeVerb subscribe ++
          "\", \"channel\":\"" ++ "candles\", \"key\":\"trade:" := by
      cases subscribe <;> decide +kernel
    have htext := Frame.text_of_splice (bitfinexHead subscribe "candles")
      (Member.splice "key" "").apart [] ("trade:" ++ i ++ ":" ++ symbol)
    refine ⟨_, List.mem_of_getElem? (i := 5) rfl, .head _, congrArg some ?_⟩
    refine Eq.trans ?_ htext.symm
    have htail : "\"" ++ Frame.closing [] = "\"\x7d" := by decide +kernel
    rw [htail, ← hstem]
    simp only [String.append_assoc]
  | _ => cases h

/-- The commands of FTX hold the symbol. -/
theorem Single.holds_ftx {f : Frame}
    (h : (Single.ftx.frame? subscribe symbol m).bind (Stream.fill? interval?) = some f) :
    Venue.ftx.Holds subscribe interval? symbol m f.text := by
  cases m with
  | trade =>
    obtain rfl := Option.some.inj h
    exact Venue.holds_of_splice 0 rfl (.head _) rfl
      [Member.word "op" (subscribeVerb subscribe), Member.word "channel" "trades"]
      (Member.splice "market" "") [] (by cases subscribe <;> decide +kernel)
  | l2Event =>
    obtain rfl := Option.some.inj h
    exact Venue.holds_of_splice 1 rfl (.head _) rfl
      [Member.word "op" (subscribeVerb subscribe), Member.word "channel" "orderbook"]
      (Member.splice "market" "") [] (by cases subscribe <;> decide +kernel)
  | bbo =>
    obtain rfl := Option.some.inj h
    exact Venue.holds_of_splice 2 rfl (.head _) rfl
      [Member.word "op" (subscribeVerb subscribe), Member.word "channel" "ticker"]
      (Member.splice "market" "") [] (by cases subscribe <;> decide +kernel)
  | _ => cases h

/-! ### Commands of one pair -/

variable {s : Selection} {commands : List String}

/-- A batched command tells its one topic. -/
theorem Venue.exists_topic_of_commands {format : Batched} (hformat : v.format = .batched format)
    (h : v.commands (s.only (m, symbol)) = .ok commands)
    (h' : v.commands (s.only (m', symbol')) = .ok commands) :
    ∃ topic, v.topic? (s.params.get? "interval") symbol m = some topic ∧
      v.topic? (s.params.get? "interval") symbol' m' = some topic := by
  rw [Venue.commands_of_batched hformat, Selection.pairs_only, joined_singleton] at h h'
  obtain ⟨topic, htopic, rfl⟩ := map_eq_ok_iff.mp h
  obtain ⟨topic', htopic', heq⟩ := map_eq_ok_iff.mp h'
  have hresolve := Venue.topic?_of_resolve hformat htopic
  have hresolve' := Venue.topic?_of_resolve hformat htopic'
  -- the texts around the topics are the same, so the arrays are written alike
  have htext := List.singleton_inj.mp heq
  rw [Venue.frame_text hformat, Venue.frame_text hformat, String.append_left_inj,
    Selection.subscribe_only, Selection.subscribe_only, String.append_right_inj] at htext
  have hproper : ProperItems [topic] := ⟨Venue.topic?_proper hresolve, trivial⟩
  have hproper' : ProperItems [topic'] := ⟨Venue.topic?_proper hresolve', trivial⟩
  have harray : Json.array [topic'] = .array [topic] := compact_inj hproper' hproper htext
  obtain rfl : topic' = topic := List.singleton_inj.mp (array.inj harray)
  exact ⟨topic', hresolve, hresolve'⟩

/-- A single command holds the symbol. -/
theorem Venue.holds_of_commands (hv : v ∈ [.bitfinex, .ftx])
    (h : v.commands (s.only (m, symbol)) = .ok commands) : ∃ text, commands = [text] ∧
      v.Holds s.subscribe (s.params.get? "interval") symbol m text := by
  simp only [List.mem_cons, List.not_mem_nil, or_false] at hv
  rcases hv with rfl | rfl
  · rw [Venue.commands_of_single rfl, Selection.pairs_only, joined_singleton] at h
    obtain ⟨f, hf, rfl⟩ := map_eq_ok_iff.mp h
    exact ⟨f.text, rfl, Single.holds_bitfinex (Venue.resolve_eq_ok_iff.mp hf)⟩
  · rw [Venue.commands_of_single rfl, Selection.pairs_only, joined_singleton] at h
    obtain ⟨f, hf, rfl⟩ := map_eq_ok_iff.mp h
    exact ⟨f.text, rfl, Single.holds_ftx (Venue.resolve_eq_ok_iff.mp hf)⟩

/-- Message types that come over one channel have the same commands. -/
theorem Venue.commands_of_sharesChannel (h : v.SharesChannel m m') :
    v.commands (s.only (m, symbol)) = v.commands (s.only (m', symbol)) := by
  rcases h with rfl | ⟨rfl, hm, hm'⟩
  · rfl
  · simp only [List.mem_cons, List.not_mem_nil, or_false] at hm hm'
    rcases hm with rfl | rfl
    all_goals rcases hm' with rfl | rfl <;> rfl

/-- **Distinct subscriptions have distinct commands.**  On the venues whose channels come before the
    symbol, the commands of one message type and one symbol are those of no other pair, whatever
    characters the symbols and the interval have; but best bid and offer on OKEx is its ticker. -/
theorem Venue.commands_only_eq_iff (hv : v ∈ [.bitfinex, .bitmex, .bybit, .ftx, .okex, .okx])
    (s : Selection) {commands' : List String} (h : v.commands (s.only (m, symbol)) = .ok commands)
    (h' : v.commands (s.only (m', symbol')) = .ok commands') :
    commands = commands' ↔ symbol = symbol' ∧
      (m = m' ∨ v = .okex ∧ m ∈ [.bbo, .ticker] ∧ m' ∈ [.bbo, .ticker]) := by
  constructor
  · rintro rfl
    have hformat : v ∈ [.bitfinex, .ftx] ∨ v ∈ [.bitmex, .bybit, .okex, .okx] := by
      cases v <;> revert hv <;> decide
    rcases hformat with hsingle | hbatched
    · -- the command is a text of the venue itself
      obtain ⟨text, rfl, hholds⟩ := Venue.holds_of_commands hsingle h
      obtain ⟨text', htext, hholds'⟩ := Venue.holds_of_commands hsingle h'
      obtain rfl := List.singleton_inj.mp htext
      exact hholds.pair_eq hholds'
    · -- the command is read as JSON, and its topic is one
      obtain ⟨format, hformat⟩ : ∃ format, v.format = .batched format := by
        simp only [List.mem_cons, List.not_mem_nil, or_false] at hbatched
        rcases hbatched with rfl | rfl | rfl | rfl <;> exact ⟨_, rfl⟩
      obtain ⟨topic, htopic, htopic'⟩ := Venue.exists_topic_of_commands hformat h h'
      exact Venue.topic?_inj hbatched htopic htopic'
  · rintro ⟨rfl, hm⟩
    exact Except.ok.inj (h.symm.trans ((Venue.commands_of_sharesChannel hm).trans h'))

/-- On Bitfinex a symbol that holds the end of another command does not make its command, and on
    OKEx the ticker and the best bid and offer are one subscription. -/
theorem Venue.commands_only_ne_bitfinex :
    ∃ (s : Selection) (book best ticker : List String),
      Venue.bitfinex.commands (s.only (.l3Event, "tBTCUSD")) = .ok book ∧
      Venue.bitfinex.commands
        (s.only (.bbo, "tBTCUSD\", \"prec\":\"R0\", \"len\": 25\x7d")) = .ok best ∧
      book ≠ best ∧
      Venue.okex.commands (s.only (.bbo, "BTC-USDT")) = .ok ticker ∧
      Venue.okex.commands (s.only (.ticker, "BTC-USDT")) = .ok ticker := by
  let s : Selection := { messages := [], symbols := [] }
  have hbook : Venue.bitfinex.commands (s.only (.l3Event, "tBTCUSD")) = .ok
      ["\x7b\"event\":\"subscribe\", \"channel\":\"book\", \"symbol\": \"tBTCUSD\", \"prec\":\"R0\", \"len\": 25\x7d"] := by
    decide +kernel
  have hbest : Venue.bitfinex.commands
      (s.only (.bbo, "tBTCUSD\", \"prec\":\"R0\", \"len\": 25\x7d")) = .ok
      ["\x7b\"event\":\"subscribe\", \"channel\":\"book\", \"symbol\": \"tBTCUSD\", \"prec\":\"R0\", \"len\": 25\x7d\", \"prec\":\"R0\", \"len\": 1\x7d"] := by
    decide +kernel
  have hbbo : Venue.okex.commands (s.only (.bbo, "BTC-USDT")) =
      .ok ["\x7b\"op\":\"subscribe\",\"args\":[\"spot/ticker:BTC-USDT\"]\x7d"] := by
    decide +kernel
  have hticker : Venue.okex.commands (s.only (.ticker, "BTC-USDT")) =
      .ok ["\x7b\"op\":\"subscribe\",\"args\":[\"spot/ticker:BTC-USDT\"]\x7d"] := by
    decide +kernel
  refine ⟨s, _, _, _, hbook, hbest, fun heq => ?_, hbbo, hticker⟩
  have hpair := (Venue.commands_only_eq_iff (by decide) s hbook hbest).mp heq
  revert hpair
  decide

end MarketFeed
