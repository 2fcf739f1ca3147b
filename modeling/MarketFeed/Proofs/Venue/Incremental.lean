import MarketFeed.Proofs.Venue.Single
import MarketFeed.Proofs.Venue.Text
import Mathlib.Data.List.Infix

namespace MarketFeed

/-!
# Huobi — which commands ask for increments

A command asks for increments when its topic ends in the incremental channel.  The topic holds a
symbol and perhaps an interval, and both can be any text.

* `suffix_append_append_iff` — a word that does not overlap with a text ends what is behind it, or
  does not end the whole.
* `isHuobiIncremental_topic_iff` — when the topic of a channel ends in the incremental channel.
* `Venue.huobi_command_iff` — how the command of each pair is written: the symbol is not to blame,
  but the interval of a candlestick can be.
-/

/-! ### Ends of texts -/

/-- No word that begins `word` ends `text`, and `text` ends no such word. -/
def IsClearOf (word text : List Char) : Prop :=
  ∀ d ∈ word.inits, d ≠ [] → ¬ d <:+ text ∧ ¬ text <:+ d

instance (word text : List Char) : Decidable (IsClearOf word text) :=
  inferInstanceAs (Decidable (∀ d ∈ word.inits, d ≠ [] → ¬ d <:+ text ∧ ¬ text <:+ d))

/-- A word that is clear of a text can only end what is behind the text. -/
theorem suffix_append_append_iff {word text : List Char} (h : IsClearOf word text)
    (before after : List Char) : word <:+ before ++ text ++ after ↔ word <:+ after := by
  constructor
  · intro hword
    have hafter : after <:+ before ++ text ++ after := List.suffix_append _ _
    -- of two ends of one text the longer one ends with the other
    rcases List.suffix_or_suffix_of_suffix hword hafter with hends | ⟨d, rfl⟩
    · exact hends
    · -- otherwise a beginning of the word ends with the text, and it is empty
      obtain ⟨x, hx⟩ := hword
      rw [← List.append_assoc] at hx
      have hd : d <:+ before ++ text := ⟨x, List.append_cancel_right hx⟩
      have htext : text <:+ before ++ text := List.suffix_append _ _
      have hinits : d ∈ (d ++ after).inits := (List.mem_inits _ _).mpr (List.prefix_append _ _)
      obtain rfl : d = [] := by
        by_contra hne
        obtain ⟨hclear, hclear'⟩ := h d hinits hne
        exact (List.suffix_or_suffix_of_suffix hd htext).elim hclear hclear'
      exact List.suffix_rfl
  · exact fun hword => hword.trans (List.suffix_append _ _)

/-! ### Topics -/

variable {interval? : Option String} {symbol channel : String} {m : MessageType}

/-- A topic is incremental by how it ends. -/
theorem isHuobiIncremental_iff {topic : String} :
    isHuobiIncremental topic ↔ huobiIncremental.toList <:+ topic.toList := by
  rw [isHuobiIncremental, List.isSuffixOf_iff_suffix]

/-- The topic of a channel that is written by the format alone does not depend on the symbol in how
    it ends. -/
theorem not_isHuobiIncremental_of_clear
    (h : IsClearOf huobiIncremental.toList ('.' :: channel.toList)) :
    ¬ isHuobiIncremental (huobiTopic symbol channel) := by
  have htopic : (huobiTopic symbol channel).toList =
      ("market." ++ symbol).toList ++ '.' :: channel.toList ++ [] := by
    simp [huobiTopic]
  rw [isHuobiIncremental_iff, htopic, suffix_append_append_iff h]
  decide

/-- The topic of a candlestick ends as its interval does. -/
theorem isHuobiIncremental_kline_iff {interval : String} :
    isHuobiIncremental (huobiTopic symbol ("kline." ++ interval)) ↔
      huobiIncremental.toList <:+ interval.toList := by
  have hclear : IsClearOf huobiIncremental.toList ".kline.".toList := by decide
  have htopic : (huobiTopic symbol ("kline." ++ interval)).toList =
      ("market." ++ symbol).toList ++ ".kline.".toList ++ interval.toList := by
    simp [huobiTopic]
  rw [isHuobiIncremental_iff, htopic, suffix_append_append_iff hclear]

/-- **When a topic ends in the incremental channel**: for the book updates of a contract, and for a
    candlestick whose interval ends in it. -/
theorem isHuobiIncremental_topic_iff (h : huobiChannel? interval? symbol m = some channel) :
    isHuobiIncremental (huobiTopic symbol channel) ↔
      (m = .l2Event ∧ Text.lowercase symbol ≠ symbol) ∨
        (m = .candlestick ∧ ∃ i, interval? = some i ∧ huobiIncremental.toList <:+ i.toList) := by
  -- most channels are words that are clear of the incremental one; the last two are not
  cases m with
  | trade | bbo | ticker =>
    have hclear : IsClearOf huobiIncremental.toList ('.' :: channel.toList) := by
      obtain rfl := Option.some.inj h
      decide
    simp [not_isHuobiIncremental_of_clear hclear]
  | l2TopK =>
    have hclear : IsClearOf huobiIncremental.toList ('.' :: channel.toList) := by
      obtain rfl := Option.some.inj h
      split <;> decide
    simp [not_isHuobiIncremental_of_clear hclear]
  | l2Event =>
    obtain rfl := Option.some.inj h
    -- spot markets have a channel of their own, which is not incremental
    cases hspot : isHuobiSpot symbol with
    | true =>
      have hclear : IsClearOf huobiIncremental.toList ('.' :: "mbp.20".toList) := by decide
      have hlower : Text.lowercase symbol = symbol := eq_of_beq hspot
      simp [not_isHuobiIncremental_of_clear hclear, hlower]
    | false =>
      have hlower : Text.lowercase symbol ≠ symbol := ne_of_beq_false hspot
      have hends : isHuobiIncremental (huobiTopic symbol huobiIncremental) := by
        rw [isHuobiIncremental_iff, huobiTopic, String.toList_append]
        exact List.suffix_append _ _
      simp [hends, hlower]
  | candlestick =>
    obtain ⟨i, rfl, rfl⟩ := Option.map_eq_some_iff.mp h
    simp [isHuobiIncremental_kline_iff]
  | _ => cases h

/-! ### Commands -/

/-- The command at the place of a pair is for the topic of its channel. -/
theorem Venue.huobi_commands_getElem? {s : Selection} {commands : List String}
    (h : Venue.huobi.commands s = .ok commands) {i j : Nat} (hi : s.messages[i]? = some m)
    (hj : s.symbols[j]? = some symbol) :
    ∃ channel, huobiChannel? (s.params.get? "interval") symbol m = some channel ∧
      commands[i * s.symbols.length + j]? =
        some (huobiFrame s.subscribe (huobiTopic symbol channel)).text := by
  obtain ⟨frames, hframes, hmap⟩ := bind_eq_ok_iff.mp h
  obtain rfl := Except.ok.inj hmap
  obtain ⟨f, hplace, hresolve⟩ := forEachPair_getElem? hframes hi hj
  rw [Venue.resolve_eq_ok_iff, Single.huobi_frame?_fill] at hresolve
  obtain ⟨channel, hchannel, rfl⟩ := Option.map_eq_some_iff.mp hresolve
  exact ⟨channel, hchannel, by rw [List.getElem?_map, hplace, Option.map_some]⟩

/-- **Which commands of Huobi ask for increments.**  There is one command for each pair, at the place
    of the pair, and it is written in one of two ways around the topic.  It is spaced and asks for
    increments just when the message type is level 2 events and the symbol is not in lower case, or
    when it is a candlestick whose interval ends in the incremental channel.  Nothing else that
    stands in the symbol or the interval matters. -/
theorem Venue.huobi_command_iff {s : Selection} {commands : List String}
    (h : Venue.huobi.commands s = .ok commands) :
    commands.length = s.messages.length * s.symbols.length ∧
    ∀ i j m symbol, s.messages[i]? = some m → s.symbols[j]? = some symbol →
      ∃ command channel, commands[i * s.symbols.length + j]? = some command ∧
        huobiChannel? (s.params.get? "interval") symbol m = some channel ∧
        ∀ spaced topic,
          command = huobiHead s.subscribe spaced ++ topic ++ huobiTail spaced ↔
            topic = huobiTopic symbol channel ∧
            (spaced = true ↔ (m = .l2Event ∧ Text.lowercase symbol ≠ symbol) ∨
              (m = .candlestick ∧ ∃ interval, s.params.get? "interval" = some interval ∧
                huobiIncremental.toList <:+ interval.toList)) := by
  constructor
  · obtain ⟨frames, hframes, hmap⟩ := bind_eq_ok_iff.mp h
    obtain rfl := Except.ok.inj hmap
    rw [List.length_map]
    exact forEachPair_length hframes
  · intro i j m symbol hi hj
    obtain ⟨channel, hchannel, hplace⟩ := Venue.huobi_commands_getElem? h hi hj
    refine ⟨_, channel, hplace, hchannel, fun spaced topic => ?_⟩
    -- the two ways to write a command share no text, so the command tells which one it is
    rw [huobiFrame_text, ← isHuobiIncremental_topic_iff hchannel]
    constructor
    · intro htext
      obtain ⟨rfl, rfl⟩ := huobi_text_inj htext
      exact ⟨rfl, Iff.rfl⟩
    · rintro ⟨rfl, hspaced⟩
      rw [Bool.eq_iff_iff.mpr hspaced]

/-- The book updates of a spot market do not ask for increments, but the candlesticks beside them do
    when their interval ends in the incremental channel. -/
theorem Venue.huobi_command_iff_spot :
    ∃ (s : Selection) (updates candlestick : String),
      Venue.huobi.commands s = .ok [updates, candlestick] ∧
      s.messages = [.l2Event, .candlestick] ∧ s.symbols = ["btcusdt"] ∧
      s.params.get? "interval" = some "depth.size_20.high_freq" ∧
      updates = huobiHead true false ++ "market.btcusdt.mbp.20" ++ huobiTail false ∧
      candlestick = huobiHead true true ++ "market.btcusdt.kline.depth.size_20.high_freq"
        ++ huobiTail true := by
  let s : Selection := {
    messages := [.l2Event, .candlestick], symbols := ["btcusdt"]
    params := { entries? := some [("interval", "depth.size_20.high_freq")] } }
  have hcommands : Venue.huobi.commands s = .ok
      ["\x7b\"sub\":\"market.btcusdt.mbp.20\",\"id\":\"crypto-ws-client\"\x7d",
       "\x7b\"sub\": \"market.btcusdt.kline.depth.size_20.high_freq\",\"data_type\":\"incremental\",\"id\": \"crypto-ws-client\"\x7d"] := by
    decide +kernel
  obtain ⟨-, hplace⟩ := Venue.huobi_command_iff hcommands
  obtain ⟨updates, channel, hupdates, hchannel, htext⟩ :=
    hplace 0 0 .l2Event "btcusdt" rfl rfl
  obtain ⟨candlestick, channel', hcandlestick, hchannel', htext'⟩ :=
    hplace 1 0 .candlestick "btcusdt" rfl rfl
  obtain rfl := Option.some.inj hchannel
  obtain rfl := Option.some.inj hchannel'
  have hspot : Text.lowercase "btcusdt" = "btcusdt" := by decide +kernel
  refine ⟨s, updates, candlestick, ?_, rfl, rfl, rfl, (htext _ _).mpr ⟨?_, ?_⟩,
    (htext' _ _).mpr ⟨rfl, iff_of_true rfl (.inr ⟨rfl, _, rfl, List.suffix_rfl⟩)⟩⟩
  · rw [hcommands, ← Option.some.inj hupdates, ← Option.some.inj hcandlestick]
  · decide +kernel
  · simp [hspot]

/-- The message type does not decide alone whether a command asks for increments. -/
theorem Venue.not_huobi_command_by_message :
    ¬ ∀ (s : Selection) (commands : List String), Venue.huobi.commands s = .ok commands →
      ∀ i j m symbol, s.messages[i]? = some m → s.symbols[j]? = some symbol →
        ∃ command, commands[i * s.symbols.length + j]? = some command ∧
          ((∃ topic, command = huobiHead s.subscribe true ++ topic ++ huobiTail true) ↔
            m = .l2Event ∧ Text.lowercase symbol ≠ symbol) := by
  intro hall
  let s : Selection := {
    messages := [.candlestick], symbols := ["btcusdt"]
    params := { entries? := some [("interval", "depth.size_20.high_freq")] } }
  have hcommands : Venue.huobi.commands s = .ok
      [huobiHead true true ++ "market.btcusdt.kline.depth.size_20.high_freq" ++ huobiTail true] := by
    decide +kernel
  obtain ⟨command, hplace, hspaced⟩ := hall s _ hcommands 0 0 .candlestick "btcusdt" rfl rfl
  have htopic := hspaced.mp ⟨_, (Option.some.inj hplace).symm⟩
  cases htopic.1

end MarketFeed
