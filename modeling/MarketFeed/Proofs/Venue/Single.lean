import MarketFeed.Proofs.Pairs
import MarketFeed.Proofs.Splice
import MarketFeed.Proofs.Venue.Stream

namespace MarketFeed

/-!
# Single commands — what keeps them intact

The venues that take one topic per command set it between quotes as it is.  The topic is the symbol,
with words of the format and perhaps the interval around it.

* `isLegal_join_iff` — a topic of three parts is legal when its parts are.
* `IsLegalFor`, `Frame.SplicesFor` — what was given for a topic is legal, and the topic with it.
* `huobiChannel?`, `Single.huobi_frame?_fill` — the channels of Huobi, and its commands by channel.
* `Single.bitfinex_splices`, `Single.ftx_splices`, `Single.huobi_splices` — what the commands of the
  three formats set between quotes.
* `Venue.splicesFor_of_resolve` — so a frame is intact just when the symbol is legal between quotes,
  and with it the interval of a candlestick.
-/

open Json

/-! ### Topics -/

/-- A plain character that is no part of an escape separates texts. -/
theorem isSeparator_of_plain {c : Char} (hplain : c ≠ '"' ∧ c ≠ '\\' ∧ 0x20 ≤ c.toNat)
    (hu : c ≠ 'u') (hcode : Text.hexValue? c = none) (hletter : ∀ p ∈ shortEscapes, p.1 ≠ c) :
    IsSeparator c := by
  refine ⟨hplain.1, hplain.2.2, ?_, hletter⟩
  rintro (h | h | h)
  · exact hplain.2.1 h
  · exact hu h
  · rw [hcode] at h
    cases h

theorem isSeparator_colon : IsSeparator ':' :=
  isSeparator_of_plain (by decide) (by decide) (by decide) (by decide)

theorem isSeparator_dot : IsSeparator '.' :=
  isSeparator_of_plain (by decide) (by decide) (by decide) (by decide)

/-- A topic of three parts is legal when its parts are. -/
theorem isLegal_join_iff {c : Char} (hc : IsSeparator c) {a b d : List Char} :
    IsLegal (a ++ c :: (b ++ c :: d)) ↔ IsLegal a ∧ IsLegal b ∧ IsLegal d := by
  rw [isLegal_append_cons_iff hc, isLegal_append_cons_iff hc]

/-- The symbol is legal between quotes, and so is the interval of a candlestick topic. -/
def IsLegalFor (symbol : String) (interval? : Option String) (m : MessageType) : Prop :=
  IsLegal symbol.toList ∧ (m = .candlestick → ∀ i, interval? = some i → IsLegal i.toList)

/-- Away from candlesticks only the symbol counts. -/
theorem isLegalFor_of_ne {symbol : String} {interval? : Option String} {m : MessageType}
    (hm : m ≠ .candlestick) : IsLegalFor symbol interval? m ↔ IsLegal symbol.toList := by
  simp [IsLegalFor, hm]

/-- For a candlestick the interval counts too. -/
theorem isLegalFor_candlestick {symbol interval : String} :
    IsLegalFor symbol (some interval) .candlestick ↔
      IsLegal symbol.toList ∧ IsLegal interval.toList := by
  simp [IsLegalFor]

/-- The frame sets one text between quotes, which is legal when what it was made from is. -/
def Frame.SplicesFor (f : Frame) (symbol : String) (interval? : Option String) (m : MessageType) :
    Prop :=
  ∃ text, f.Splices text ∧ (IsLegal text.toList ↔ IsLegalFor symbol interval? m)

/-- The symbol alone is set between quotes. -/
theorem Frame.Splices.forSymbol {f : Frame} {symbol : String} {interval? : Option String}
    {m : MessageType} (h : f.Splices symbol) (hm : m ≠ .candlestick) :
    f.SplicesFor symbol interval? m :=
  ⟨symbol, h, (isLegalFor_of_ne hm).symm⟩

/-! ### Members that a format writes -/

/-- A member with a word as its value is fixed. -/
theorem Member.isFixed_word {name : String} (h : IsName name) (word : String) :
    (Member.word name word).IsFixed :=
  ⟨h, .string word, trivial, rfl⟩

theorem Member.IsFixed.apart {m : Member} (h : m.IsFixed) : m.apart.IsFixed := ⟨h.name, h.value⟩

theorem Member.IsFixed.loose {m : Member} (h : m.IsFixed) : m.loose.IsFixed := ⟨h.name, h.value⟩

/-- A member with a number as its value is fixed. -/
theorem Member.isFixed_digits {name digits : String} (h : IsName name)
    (hdigits : IsDigits digits.toList) (hzero : digits.toList.head? = some '0' → digits.toList = ['0']) :
    Member.IsFixed { name, value := .json (.number digits) } :=
  ⟨h, .number digits, hdigits.isNumber hzero, rfl⟩

/-! ### Bitfinex -/

section Bitfinex

variable {subscribe : Bool} {channel text : String}

/-- The first members of a Bitfinex command are fixed. -/
theorem isFixed_bitfinexHead : ∀ p ∈ bitfinexHead subscribe channel, p.IsFixed := by
  have hevent := Member.isFixed_word (show IsName "event" by decide) (subscribeVerb subscribe)
  have hchannel := (Member.isFixed_word (show IsName "channel" by decide) channel).apart
  rw [bitfinexHead, List.forall_mem_cons, List.forall_mem_singleton]
  exact ⟨hevent, hchannel⟩

/-- A text is spliced behind the first members of a Bitfinex command. -/
theorem splices_bitfinexHead {m : Member} {after : List Member} (hname : IsPlain m.name)
    (hvalue : m.value = .spliced text) (hafter : ∀ p ∈ after, p.IsFixed) :
    Frame.Splices { members := bitfinexHead subscribe channel ++ m :: after } text :=
  ⟨_, m, after, rfl, hname, hvalue, isFixed_bitfinexHead, hafter⟩

/-- So it is into the command for a raw book. -/
theorem splices_bitfinexRawBook {depth : String} (hdigits : IsDigits depth.toList)
    (hzero : depth.toList.head? = some '0' → depth.toList = ['0']) :
    (bitfinexRawBook subscribe text depth).Splices text := by
  have hprec := (Member.isFixed_word (show IsName "prec" by decide) "R0").apart
  have hlen := (Member.isFixed_digits (show IsName "len" by decide) hdigits hzero).loose.apart
  apply splices_bitfinexHead (show IsPlain "symbol" by decide) rfl
  rw [List.forall_mem_cons, List.forall_mem_singleton]
  exact ⟨hprec, hlen⟩

end Bitfinex

variable {subscribe : Bool} {symbol : String} {interval? : Option String} {m : MessageType}
  {f : Frame}

/-- A command of Bitfinex sets the symbol between quotes, or the key of a candlestick. -/
theorem Single.bitfinex_splices
    (h : (Single.bitfinex.frame? subscribe symbol m).bind (Stream.fill? interval?) = some f) :
    f.SplicesFor symbol interval? m := by
  have hsymbol : IsPlain "symbol" := by decide
  cases m with
  | trade =>
    obtain rfl := Option.some.inj h
    exact (splices_bitfinexHead hsymbol rfl (List.forall_mem_nil _)).forSymbol (by decide)
  | ticker =>
    obtain rfl := Option.some.inj h
    exact (splices_bitfinexHead hsymbol rfl (List.forall_mem_nil _)).forSymbol (by decide)
  | l2Event =>
    obtain rfl := Option.some.inj h
    have hprec := (Member.isFixed_word (show IsName "prec" by decide) "P0").apart
    have hfrec := (Member.isFixed_word (show IsName "frec" by decide) "F0").apart
    have hlen := (@Member.isFixed_digits "len" "25" (by decide) (by decide) (by decide)).apart
    refine (splices_bitfinexHead hsymbol rfl ?_).forSymbol (by decide)
    rw [List.forall_mem_cons, List.forall_mem_cons, List.forall_mem_singleton]
    exact ⟨hprec, hfrec, hlen⟩
  | l3Event =>
    obtain rfl := Option.some.inj h
    exact (splices_bitfinexRawBook (by decide) (by decide)).forSymbol (by decide)
  | bbo =>
    obtain rfl := Option.some.inj h
    exact (splices_bitfinexRawBook (by decide) (by decide)).forSymbol (by decide)
  | candlestick =>
    -- the key holds the interval as well, and its own colons part them
    obtain ⟨i, rfl, rfl⟩ := Option.map_eq_some_iff.mp h
    refine ⟨_, splices_bitfinexHead (show IsPlain "key" by decide) rfl (List.forall_mem_nil _), ?_⟩
    have hkey : ("trade:" ++ i ++ ":" ++ symbol).toList
        = "trade".toList ++ ':' :: (i.toList ++ ':' :: symbol.toList) := by
      simp
    have htrade : IsLegal "trade".toList := IsPlain.isLegal (by decide)
    rw [hkey, isLegal_join_iff isSeparator_colon, isLegalFor_candlestick]
    exact ⟨fun h => ⟨h.2.2, h.2.1⟩, fun h => ⟨htrade, h.2, h.1⟩⟩
  | _ => cases h

/-! ### FTX -/

/-- The symbol is spliced into a command of FTX. -/
theorem splices_ftxFrame (subscribe : Bool) (symbol channel : String) :
    (ftxFrame subscribe symbol channel).Splices symbol := by
  have hop := Member.isFixed_word (show IsName "op" by decide) (subscribeVerb subscribe)
  have hchannel := Member.isFixed_word (show IsName "channel" by decide) channel
  refine ⟨[_, _], _, [], rfl, show IsPlain "market" by decide, rfl, ?_, List.forall_mem_nil _⟩
  rw [List.forall_mem_cons, List.forall_mem_singleton]
  exact ⟨hop, hchannel⟩

/-- A command of FTX sets the symbol between quotes. -/
theorem Single.ftx_splices
    (h : (Single.ftx.frame? subscribe symbol m).bind (Stream.fill? interval?) = some f) :
    f.SplicesFor symbol interval? m := by
  have hframe : m ≠ .candlestick ∧ ∃ channel, f = ftxFrame subscribe symbol channel := by
    cases m with
    | trade => exact ⟨by decide, _, (Option.some.inj h).symm⟩
    | l2Event => exact ⟨by decide, _, (Option.some.inj h).symm⟩
    | bbo => exact ⟨by decide, _, (Option.some.inj h).symm⟩
    | _ => cases h
  obtain ⟨hm, channel, rfl⟩ := hframe
  exact (splices_ftxFrame _ _ _).forSymbol hm

/-! ### Huobi -/

/-- With the incremental channel and without it, the topic is set between quotes. -/
theorem splices_huobiFrame (subscribe : Bool) (topic : String) :
    (huobiFrame subscribe topic).Splices topic := by
  have hverb : IsPlain (huobiFrame.verb subscribe) := by cases subscribe <;> decide
  have hid := Member.isFixed_word (show IsName "id" by decide) huobiFrame.client
  have htype := Member.isFixed_word (show IsName "data_type" by decide) "incremental"
  unfold huobiFrame
  -- the incremental channel adds a member, which is one of the format's own
  split
  · refine ⟨[], _, _, rfl, hverb, rfl, List.forall_mem_nil _, ?_⟩
    rw [List.forall_mem_cons, List.forall_mem_singleton]
    exact ⟨htype, hid.loose⟩
  · refine ⟨[], _, _, rfl, hverb, rfl, List.forall_mem_nil _, ?_⟩
    rw [List.forall_mem_singleton]
    exact hid

/-- The channel of a message type, if the interval is there when it is needed. -/
def huobiChannel? (interval? : Option String) (symbol : String) : MessageType → Option String
  | .trade => some "trade.detail"
  | .l2Event => some (if isHuobiSpot symbol then "mbp.20" else huobiIncremental)
  | .l2TopK => some (if isHuobiSpot symbol then "depth.step1" else "depth.step7")
  | .bbo => some "bbo"
  | .ticker => some "detail"
  | .candlestick => interval?.map ("kline." ++ ·)
  | _ => none

/-- The topic of a channel. -/
def huobiTopic (symbol channel : String) : String := "market." ++ symbol ++ "." ++ channel

/-- A command of Huobi is for the topic of the channel. -/
theorem Single.huobi_frame?_fill (subscribe : Bool) (interval? : Option String) (symbol : String)
    (m : MessageType) :
    (Single.huobi.frame? subscribe symbol m).bind (Stream.fill? interval?) =
      (huobiChannel? interval? symbol m).map fun c => huobiFrame subscribe (huobiTopic symbol c) := by
  cases m with
  | candlestick =>
    cases interval? with
    | none => rfl
    | some i =>
      have htopic : "market." ++ symbol ++ ".kline." ++ i = huobiTopic symbol ("kline." ++ i) := by
        have hdot : ".kline." = "." ++ "kline." := rfl
        rw [huobiTopic, hdot]
        simp only [String.append_assoc]
      exact congrArg (some <| huobiFrame subscribe ·) htopic
  | _ => rfl

/-- A channel is a plain text of the format, or ends with the interval. -/
theorem huobiChannel?_cases {channel : String}
    (h : huobiChannel? interval? symbol m = some channel) :
    (m ≠ .candlestick ∧ IsPlain channel) ∨
      ∃ i, m = .candlestick ∧ interval? = some i ∧ channel = "kline." ++ i := by
  cases m with
  | candlestick =>
    obtain ⟨i, rfl, rfl⟩ := Option.map_eq_some_iff.mp h
    exact .inr ⟨i, rfl, rfl, rfl⟩
  | trade | bbo | ticker =>
    obtain rfl := Option.some.inj h
    exact .inl ⟨by decide, by decide⟩
  | l2Event | l2TopK =>
    obtain rfl := Option.some.inj h
    exact .inl ⟨by decide, by split <;> decide⟩
  | _ => cases h

/-- A command of Huobi sets the symbol between quotes, with a channel behind it. -/
theorem Single.huobi_splices
    (h : (Single.huobi.frame? subscribe symbol m).bind (Stream.fill? interval?) = some f) :
    f.SplicesFor symbol interval? m := by
  rw [Single.huobi_frame?_fill] at h
  obtain ⟨channel, hchannel, rfl⟩ := Option.map_eq_some_iff.mp h
  refine ⟨_, splices_huobiFrame _ _, ?_⟩
  have hmarket : IsLegal "market".toList := IsPlain.isLegal (by decide)
  have htopic : (huobiTopic symbol channel).toList
      = "market".toList ++ '.' :: (symbol.toList ++ '.' :: channel.toList) := by
    simp [huobiTopic]
  rw [htopic, isLegal_join_iff isSeparator_dot]
  rcases huobiChannel?_cases hchannel with ⟨hm, hplain⟩ | ⟨i, rfl, rfl, rfl⟩
  · rw [isLegalFor_of_ne hm]
    exact ⟨fun h => h.2.1, fun h => ⟨hmarket, h, hplain.isLegal⟩⟩
  · have hkline : IsLegal "kline".toList := IsPlain.isLegal (by decide)
    have hinterval : ("kline." ++ i).toList = "kline".toList ++ '.' :: i.toList := by simp
    rw [hinterval, isLegal_append_cons_iff isSeparator_dot, isLegalFor_candlestick]
    exact ⟨fun h => ⟨h.2.1, h.2.2.2⟩, fun h => ⟨hmarket, h.1, hkline, h.2⟩⟩

/-! ### Venues -/

/-- **What a venue with single commands sets between quotes.** -/
theorem Venue.splicesFor_of_resolve {v : Venue} {format : Single} (h : v.format = .single format)
    {params : Params} (hf : v.resolve params m (format.frame? subscribe symbol m) = .ok f) :
    f.SplicesFor symbol (params.get? "interval") m := by
  rw [Venue.resolve_eq_ok_iff] at hf
  cases v <;> cases h
  case bitfinex => exact Single.bitfinex_splices hf
  case ftx => exact Single.ftx_splices hf
  case huobi => exact Single.huobi_splices hf

end MarketFeed
