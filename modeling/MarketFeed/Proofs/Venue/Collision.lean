import MarketFeed.Proofs.Venue.Distinct

namespace MarketFeed

/-!
# Distinct subscriptions that share a command

Binance, Deribit and Huobi set the symbol before the channel, or inside it.  Two channels then make
one topic if one of them ends the other and the symbol supplies the rest, and there is no other way.

* `Template.fill`, `Template.Extends` — the topic of a template; a template that is another one with
  more behind the symbol.
* `Venue.patterns`, `Venue.overlaps` — the templates of the three venues, and those of them that
  extend another.
* `Venue.pattern_cases` — any others are apart.
* `Venue.Fills`, `Venue.Fills.cases` — a topic made from a template of the venue, and what two
  subscriptions with one topic have in common.
* `Venue.Shadows` — a subscription that is another one with a longer symbol.
* `Venue.commands_only_eq_iff_shadows` — the commands of two subscriptions are the same only for
  these reasons; `Venue.commands_collide_iff` says so venue by venue.
-/

open Json

/-! ### Templates that extend others -/

/-- The topic of a template, with some text in the place of the symbol. -/
def Template.fill (p : Template) (text : String) : String := p.stem ++ text ++ p.tail

/-- The template is the other one with more behind the symbol. -/
def Template.Extends (p q : Template) (more : String) : Prop :=
  p.stem = q.stem ∧ p.tail = more ++ q.tail

instance (p q : Template) (more : String) : Decidable (p.Extends q more) :=
  inferInstanceAs (Decidable (_ ∧ _))

section Templates

variable {p q : Template} {a b more : String}

/-- A template tells what it was filled with. -/
theorem Template.fill_inj : p.fill a = p.fill b ↔ a = b := by
  rw [Template.fill, Template.fill, String.append_left_inj, String.append_right_inj]

/-- Where a template extends another one, the symbol of that one ends with what is more. -/
theorem Template.Extends.fill_eq_iff (h : p.Extends q more) : p.fill a = q.fill b ↔ b = a ++ more := by
  rw [Template.fill, Template.fill, h.1, h.2, ← String.append_assoc, String.append_left_inj,
    String.append_assoc, String.append_right_inj, eq_comm]

/-- Templates that are apart never give one topic. -/
theorem Template.Apart.fill_ne (h : p.Apart q) (hp : p.joint? = none) (hq : q.joint? = none) :
    p.fill a ≠ q.fill b := by
  apply @Template.Apart.text_ne p q none _ _ a b h
  · rw [Template.before?, hp]
  · rw [Template.before?, hq]

end Templates

/-! ### The templates of the venues -/

/-- The topics of a venue that sets the symbol before the channel, or inside it.  Those of Binance
    and Huobi that need the interval are left out. -/
def Venue.patterns : Venue → List Template
  | .binance =>
      [{ messages := [.trade], stem := "", tail := "@aggTrade" },
       { messages := [.l2Event], stem := "", tail := "@depth@100ms" },
       { messages := [.l2TopK], stem := "", tail := "@depth5" },
       { messages := [.bbo], stem := "", tail := "@bookTicker" },
       { messages := [.ticker], stem := "", tail := "@ticker" }]
  | .deribit =>
      [{ messages := [.trade], stem := "trades.", tail := ".100ms" },
       { messages := [.l2Event], stem := "book.", tail := ".100ms" },
       { messages := [.l2TopK], stem := "book.", tail := ".5.10.100ms" },
       { messages := [.bbo], stem := "quote." },
       { messages := [.ticker], stem := "ticker.", tail := ".100ms" },
       { messages := [.candlestick], stem := "chart.trades." }]
  | .huobi =>
      [{ messages := [.trade], stem := "market.", tail := ".trade.detail" },
       { messages := [.l2Event], stem := "market.", tail := ".mbp.20" },
       { messages := [.l2Event], stem := "market.", tail := ".depth.size_20.high_freq" },
       { messages := [.l2TopK], stem := "market.", tail := ".depth.step1" },
       { messages := [.l2TopK], stem := "market.", tail := ".depth.step7" },
       { messages := [.bbo], stem := "market.", tail := ".bbo" },
       { messages := [.ticker], stem := "market.", tail := ".detail" }]
  | _ => []

/-- The message types whose templates extend one another: the topic of the first for some symbol is
    that of the second for the symbol with the text behind it. -/
def Venue.overlaps : Venue → List (MessageType × MessageType × String)
  | .deribit => [(.l2TopK, .l2Event, ".5.10")]
  | .huobi => [(.trade, .ticker, ".trade")]
  | _ => []

/-- No pattern has its interval in front of the symbol. -/
theorem Venue.joint?_of_mem_patterns (v : Venue) : ∀ p ∈ v.patterns, p.joint? = none := by
  cases v <;> decide

/-- **Two templates of a venue are one, or extend one another where the table says so, or are
    apart.** -/
theorem Venue.pattern_cases (v : Venue) :
    ∀ p ∈ v.patterns, ∀ q ∈ v.patterns, ∀ m ∈ p.messages, ∀ m' ∈ q.messages,
      (p = q ∧ m = m') ∨
      (∃ o ∈ v.overlaps, o.1 = m ∧ o.2.1 = m' ∧ p.Extends q o.2.2) ∨
      (∃ o ∈ v.overlaps, o.1 = m' ∧ o.2.1 = m ∧ q.Extends p o.2.2) ∨ p.Apart q := by
  cases v <;> decide +kernel

/-! ### Topics -/

/-- The symbol as the venue writes it. -/
def Venue.spelling (v : Venue) (symbol : String) : String :=
  match v with
  | .binance => Text.lowercase symbol
  | _ => symbol

/-- What follows the symbol in its place: on Deribit, the interval of a candlestick. -/
def Venue.period? (v : Venue) (interval? : Option String) (m : MessageType) : Option String :=
  if v = .deribit ∧ m = .candlestick then interval?.map ("." ++ ·) else some ""

/-- What stands in the place of the symbol. -/
def Venue.filler? (v : Venue) (interval? : Option String) (p : MessageType × String) :
    Option String :=
  (v.period? interval? p.1).map (v.spelling p.2 ++ ·)

/-- The topic is made from a template of the venue for the message type, with the symbol in it. -/
def Venue.Fills (v : Venue) (interval? : Option String) (p : MessageType × String)
    (topic : String) : Prop :=
  ∃ t ∈ v.patterns, p.1 ∈ t.messages ∧ (v.filler? interval? p).map t.fill = some topic

/-- The topic of the first subscription is that of the second, whose symbol is longer. -/
def Venue.Shadows (v : Venue) (p q : MessageType × String) : Prop :=
  ∃ o ∈ v.overlaps, ∃ symbol, p = (o.1, symbol) ∧ q = (o.2.1, symbol ++ o.2.2)

/-- On Deribit, the top of a book is the book of a symbol that ends in the depth. -/
theorem Venue.shadows_deribit_iff {p q : MessageType × String} :
    Venue.deribit.Shadows p q ↔
      ∃ symbol, p = (.l2TopK, symbol) ∧ q = (.l2Event, symbol ++ ".5.10") := by
  simp [Venue.Shadows, Venue.overlaps]

/-- On Huobi, the trades are the ticker of a symbol that ends in their channel. -/
theorem Venue.shadows_huobi_iff {p q : MessageType × String} :
    Venue.huobi.Shadows p q ↔
      ∃ symbol, p = (.trade, symbol) ∧ q = (.ticker, symbol ++ ".trade") := by
  simp [Venue.Shadows, Venue.overlaps]

/-- What is more always holds a dot. -/
theorem Venue.Shadows.dot_mem {v : Venue} {p q : MessageType × String} (h : v.Shadows p q) :
    '.' ∈ q.2.toList := by
  obtain ⟨o, ho, symbol, -, rfl⟩ := h
  have hmore : ∀ o ∈ v.overlaps, '.' ∈ o.2.2.toList := by cases v <;> decide
  rw [String.toList_append]
  exact List.mem_append_right _ (hmore o ho)

variable {v : Venue} {interval? : Option String} {p p' : MessageType × String}

/-- Of one message type, topics that are filled alike are for one spelling. -/
theorem Venue.spelling_eq_of_filler? (hm : p.1 = p'.1) {text : String}
    (h : v.filler? interval? p = some text) (h' : v.filler? interval? p' = some text) :
    v.spelling p.2 = v.spelling p'.2 := by
  obtain ⟨period, hperiod, rfl⟩ := Option.map_eq_some_iff.mp h
  obtain ⟨period', hperiod', heq⟩ := Option.map_eq_some_iff.mp h'
  rw [← hm, hperiod] at hperiod'
  obtain rfl := Option.some.inj hperiod'
  exact (String.append_left_inj _).mp heq.symm

/-- Where templates extend one another, the symbol stands in its place as it is. -/
theorem Venue.filler?_of_overlap {o : MessageType × MessageType × String} (ho : o ∈ v.overlaps)
    (hm : p.1 = o.1 ∨ p.1 = o.2.1) : v.filler? interval? p = some p.2 := by
  -- only candlesticks have more in the place of the symbol, and theirs do not overlap
  have hperiod : v.period? interval? p.1 = some "" := by
    refine if_neg fun hcandlestick => ?_
    have htable : ∀ o ∈ v.overlaps, o.1 ≠ .candlestick ∧ o.2.1 ≠ .candlestick := by
      cases v <;> decide
    rcases hm with hm | hm
    · exact (htable o ho).1 (hm ▸ hcandlestick.2)
    · exact (htable o ho).2 (hm ▸ hcandlestick.2)
  have hspelling : v.spelling p.2 = p.2 := by
    cases v <;> first | rfl | cases ho
  rw [Venue.filler?, hperiod, Option.map_some, hspelling, String.append_empty]

/-- Where a template extends another one, a topic of both is that of a longer symbol. -/
theorem Venue.shadows_of_extends {o : MessageType × MessageType × String} (ho : o ∈ v.overlaps)
    (hm : o.1 = p.1) (hm' : o.2.1 = p'.1) {t t' : Template} (hextends : t.Extends t' o.2.2)
    {text text' : String} (h : v.filler? interval? p = some text)
    (h' : v.filler? interval? p' = some text') (htopic : t.fill text = t'.fill text') :
    v.Shadows p p' := by
  obtain rfl : text = p.2 :=
    Option.some.inj (h.symm.trans (Venue.filler?_of_overlap ho (.inl hm.symm)))
  obtain rfl : text' = p'.2 :=
    Option.some.inj (h'.symm.trans (Venue.filler?_of_overlap ho (.inr hm'.symm)))
  have hlonger : p'.2 = p.2 ++ o.2.2 := hextends.fill_eq_iff.mp htopic
  exact ⟨o, ho, p.2, Prod.ext hm.symm rfl, Prod.ext hm'.symm hlonger⟩

/-- **Two subscriptions with one topic** are for one message type and one spelling of the symbol, or
    one of them shadows the other. -/
theorem Venue.Fills.cases {topic : String} (h : v.Fills interval? p topic)
    (h' : v.Fills interval? p' topic) :
    (p.1 = p'.1 ∧ v.spelling p.2 = v.spelling p'.2) ∨ v.Shadows p p' ∨ v.Shadows p' p := by
  obtain ⟨t, ht, hm, htopic⟩ := h
  obtain ⟨t', ht', hm', htopic'⟩ := h'
  obtain ⟨text, htext, rfl⟩ := Option.map_eq_some_iff.mp htopic
  obtain ⟨text', htext', heq⟩ := Option.map_eq_some_iff.mp htopic'
  -- the cases are those of the table of templates
  rcases v.pattern_cases t ht t' ht' p.1 hm p'.1 hm' with
    ⟨rfl, hsame⟩ | ⟨o, ho, hfirst, hsecond, hextends⟩ | ⟨o, ho, hfirst, hsecond, hextends⟩ | hapart
  · obtain rfl := Template.fill_inj.mp heq
    exact .inl ⟨hsame, Venue.spelling_eq_of_filler? hsame htext htext'⟩
  · exact .inr (.inl (Venue.shadows_of_extends ho hfirst hsecond hextends htext htext' heq.symm))
  · exact .inr (.inr (Venue.shadows_of_extends ho hfirst hsecond hextends htext' htext heq))
  · have hjoint := v.joint?_of_mem_patterns t ht
    have hjoint' := v.joint?_of_mem_patterns t' ht'
    exact absurd heq.symm (hapart.fill_ne hjoint hjoint')

/-! ### Commands -/

/-- A topic of Binance or Deribit is made from a template. -/
theorem Venue.fills_of_topic? (hv : v ∈ [.binance, .deribit])
    (hp : p.1 = .candlestick → v = .deribit) {topic : Json}
    (h : v.topic? interval? p.2 p.1 = some topic) :
    ∃ text, topic = .string text ∧ v.Fills interval? p text := by
  obtain ⟨m, symbol⟩ := p
  simp only [List.mem_cons, List.not_mem_nil, or_false] at hv
  rcases hv with rfl | rfl
  · cases m with
    | trade | l2Event | l2TopK | bbo | ticker =>
      obtain rfl := Option.some.inj h
      simp [Venue.Fills, Venue.patterns, Venue.filler?, Venue.period?, Venue.spelling,
        Template.fill]
    | candlestick => cases hp rfl
    | _ => cases h
  · cases m with
    | trade | l2Event | l2TopK | bbo | ticker =>
      obtain rfl := Option.some.inj h
      simp [Venue.Fills, Venue.patterns, Venue.filler?, Venue.period?, Venue.spelling,
        Template.fill]
    | candlestick =>
      obtain ⟨around, haround, rfl⟩ := Option.map_eq_some_iff.mp h
      obtain ⟨i, rfl, rfl⟩ := Option.map_eq_some_iff.mp haround
      simp [Venue.Fills, Venue.patterns, Venue.filler?, Venue.period?, Venue.spelling,
        Template.fill, String.append_assoc]
    | _ => cases h

/-- A command of Huobi is for a topic that is made from a template. -/
theorem Single.fills_huobi {subscribe : Bool} {f : Frame} (hp : p.1 ≠ .candlestick)
    (h : (Single.huobi.frame? subscribe p.2 p.1).bind (Stream.fill? interval?) = some f) :
    ∃ topic, f = huobiFrame subscribe topic ∧ Venue.huobi.Fills interval? p topic := by
  obtain ⟨m, symbol⟩ := p
  cases m with
  | trade | bbo | ticker =>
    obtain rfl := Option.some.inj h
    refine ⟨_, rfl, ?_⟩
    simp [Venue.Fills, Venue.patterns, Venue.filler?, Venue.period?, Venue.spelling,
      Template.fill, String.append_assoc]
  | l2Event | l2TopK =>
    -- spot and contract markets have channels of their own
    obtain rfl := Option.some.inj h
    refine ⟨_, rfl, ?_⟩
    cases isHuobiSpot symbol
    all_goals
      simp [Venue.Fills, Venue.patterns, Venue.filler?, Venue.period?, Venue.spelling,
        Template.fill, huobiIncremental, String.append_assoc]
  | candlestick => exact absurd rfl hp
  | _ => cases h

variable {s : Selection} {commands : List String}

/-- Two subscriptions with one command have one topic. -/
theorem Venue.exists_fills_of_commands (hv : v ∈ [.binance, .deribit, .huobi])
    (hp : p.1 = .candlestick → v = .deribit) (hp' : p'.1 = .candlestick → v = .deribit)
    (h : v.commands (s.only p) = .ok commands) (h' : v.commands (s.only p') = .ok commands) :
    ∃ topic, v.Fills (s.params.get? "interval") p topic ∧
      v.Fills (s.params.get? "interval") p' topic := by
  -- a batched command holds its one topic in a list, a single one between its quotes
  have hformat : v ∈ [.binance, .deribit] ∨ v = .huobi := by
    cases v <;> revert hv <;> decide
  rcases hformat with hbatched | rfl
  · obtain ⟨format, hformat⟩ : ∃ format, v.format = .batched format := by
      simp only [List.mem_cons, List.not_mem_nil, or_false] at hbatched
      rcases hbatched with rfl | rfl <;> exact ⟨_, rfl⟩
    obtain ⟨topic, htopic, htopic'⟩ := Venue.exists_topic_of_commands hformat h h'
    obtain ⟨text, rfl, hfills⟩ := Venue.fills_of_topic? hbatched hp htopic
    obtain ⟨text', htext', hfills'⟩ := Venue.fills_of_topic? hbatched hp' htopic'
    obtain rfl := string.inj htext'
    exact ⟨text, hfills, hfills'⟩
  · rw [Venue.commands_of_single rfl, Selection.pairs_only, joined_singleton] at h h'
    obtain ⟨f, hf, rfl⟩ := map_eq_ok_iff.mp h
    obtain ⟨f', hf', hcommands⟩ := map_eq_ok_iff.mp h'
    obtain ⟨topic, rfl, hfills⟩ := Single.fills_huobi (fun hm => nomatch hp hm)
      (Venue.resolve_eq_ok_iff.mp hf)
    obtain ⟨topic', rfl, hfills'⟩ := Single.fills_huobi (fun hm => nomatch hp' hm)
      (Venue.resolve_eq_ok_iff.mp hf')
    obtain rfl := huobiFrame_inj (List.singleton_inj.mp hcommands)
    exact ⟨topic', hfills, hfills'⟩

/-- The commands depend on the spelling of the symbol alone. -/
theorem Venue.commands_congr_spelling (hm : p.1 = p'.1) (h : v.spelling p.2 = v.spelling p'.2) :
    v.commands (s.only p) = v.commands (s.only p') := by
  obtain ⟨m, symbol⟩ := p
  obtain ⟨m', symbol'⟩ := p'
  obtain rfl : m = m' := hm
  by_cases hv : v = .binance
  · subst hv
    have htopic : Batched.binance.topic? symbol m = Batched.binance.topic? symbol' m := by
      have hlowercase : Text.lowercase symbol = Text.lowercase symbol' := h
      unfold Batched.binance
      cases m <;> simp only [hlowercase]
    rw [Venue.commands_of_batched rfl, Venue.commands_of_batched rfl]
    simp only [Selection.pairs_only, List.mapM_cons, htopic]
    rfl
  · obtain rfl : symbol = symbol' := by cases v <;> first | exact h | exact absurd rfl hv
    rfl

/-- A subscription has the commands of one that shadows it. -/
theorem Venue.Shadows.commands_eq (h : v.Shadows p p') :
    v.commands (s.only p) = v.commands (s.only p') := by
  obtain ⟨o, ho, symbol, rfl, rfl⟩ := h
  cases v <;> simp only [Venue.overlaps, List.mem_singleton, List.not_mem_nil] at ho
  all_goals subst ho
  · -- both topics are one text, put together in two ways
    have htopic : Batched.deribit.topic? (symbol ++ ".5.10") .l2Event =
        Batched.deribit.topic? symbol .l2TopK := by
      simp [Batched.deribit, String.append_assoc]
    rw [Venue.commands_of_batched rfl, Venue.commands_of_batched rfl]
    simp only [Selection.pairs_only, List.mapM_cons, htopic]
    rfl
  · have hframe : Single.huobi.frame? s.subscribe (symbol ++ ".trade") .ticker =
        Single.huobi.frame? s.subscribe symbol .trade := by
      simp [Single.huobi, Single.huobi.ready, String.append_assoc]
    rw [Venue.commands_of_single rfl, Venue.commands_of_single rfl]
    simp only [Selection.pairs_only, List.mapM_cons, Selection.subscribe_only, hframe]
    rfl

/-- **The commands of two subscriptions are the same** just when the message types are and the
    symbols are spelt alike, or one subscription shadows the other. -/
theorem Venue.commands_only_eq_iff_shadows (hv : v ∈ [.binance, .deribit, .huobi])
    (hp : p.1 = .candlestick → v = .deribit) (hp' : p'.1 = .candlestick → v = .deribit)
    {commands' : List String} (h : v.commands (s.only p) = .ok commands)
    (h' : v.commands (s.only p') = .ok commands') :
    commands = commands' ↔
      (p.1 = p'.1 ∧ v.spelling p.2 = v.spelling p'.2) ∨ v.Shadows p p' ∨ v.Shadows p' p := by
  constructor
  · rintro rfl
    obtain ⟨topic, hfills, hfills'⟩ := Venue.exists_fills_of_commands hv hp hp' h h'
    exact hfills.cases hfills'
  · intro hcases
    -- both commands are there, so it is enough that they are built alike
    suffices heq : v.commands (s.only p) = v.commands (s.only p') from
      Except.ok.inj (h.symm.trans (heq.trans h'))
    rcases hcases with ⟨hm, hspelling⟩ | hshadows | hshadows
    · exact Venue.commands_congr_spelling hm hspelling
    · exact hshadows.commands_eq
    · exact hshadows.commands_eq.symm

/-- Symbols that are spelt as they are. -/
theorem Venue.same_pair_iff (hv : v ≠ .binance) :
    p.1 = p'.1 ∧ v.spelling p.2 = v.spelling p'.2 ↔ p = p' := by
  have hspelling : ∀ symbol, v.spelling symbol = symbol := by
    intro symbol
    cases v <;> first | rfl | exact absurd rfl hv
  rw [hspelling, hspelling, Prod.ext_iff]

/-- Symbols without dots are safe where they are written as they are. -/
theorem Venue.commands_ne_of_not_mem_dot (hv : v ∈ [.deribit, .huobi])
    (hp : p.1 = .candlestick → v = .deribit) (hp' : p'.1 = .candlestick → v = .deribit)
    {commands' : List String} (h : v.commands (s.only p) = .ok commands)
    (h' : v.commands (s.only p') = .ok commands') (hdot : '.' ∉ p.2.toList)
    (hdot' : '.' ∉ p'.2.toList) (hne : p ≠ p') : commands ≠ commands' := by
  intro heq
  have hv' : v ∈ [.binance, .deribit, .huobi] := List.mem_cons_of_mem _ hv
  have hbinance : v ≠ .binance := by rintro rfl; revert hv; decide
  rcases (Venue.commands_only_eq_iff_shadows hv' hp hp' h h').mp heq with
    hsame | hshadows | hshadows
  · exact hne ((Venue.same_pair_iff hbinance).mp hsame)
  · exact hdot' hshadows.dot_mem
  · exact hdot hshadows.dot_mem

/-- **All subscriptions that share a command**, with the same parameters and in the same direction.
    On Deribit the top of the book of some symbol is the book of the symbol with `.5.10` behind it, on
    Huobi the trades are the ticker of the symbol with `.trade` behind it, and Binance does not tell
    capitals from small letters.  No other two share one, whatever characters the symbols have, so
    symbols without dots are safe on Deribit and Huobi. -/
theorem Venue.commands_collide_iff (s : Selection) (p p' : MessageType × String)
    (commands commands' : List String) :
    (Venue.deribit.commands (s.only p) = .ok commands →
      Venue.deribit.commands (s.only p') = .ok commands' →
      (commands = commands' ↔ p = p' ∨
        (∃ t, p = (.l2TopK, t) ∧ p' = (.l2Event, t ++ ".5.10")) ∨
        ∃ t, p' = (.l2TopK, t) ∧ p = (.l2Event, t ++ ".5.10")) ∧
      ('.' ∉ p.2.toList → '.' ∉ p'.2.toList → p ≠ p' → commands ≠ commands')) ∧
    (p.1 ≠ .candlestick → p'.1 ≠ .candlestick → Venue.huobi.commands (s.only p) = .ok commands →
      Venue.huobi.commands (s.only p') = .ok commands' →
      (commands = commands' ↔ p = p' ∨
        (∃ t, p = (.trade, t) ∧ p' = (.ticker, t ++ ".trade")) ∨
        ∃ t, p' = (.trade, t) ∧ p = (.ticker, t ++ ".trade")) ∧
      ('.' ∉ p.2.toList → '.' ∉ p'.2.toList → p ≠ p' → commands ≠ commands')) ∧
    (p.1 ≠ .candlestick → p'.1 ≠ .candlestick → Venue.binance.commands (s.only p) = .ok commands →
      Venue.binance.commands (s.only p') = .ok commands' →
      (commands = commands' ↔ p.1 = p'.1 ∧ Text.lowercase p.2 = Text.lowercase p'.2)) := by
  refine ⟨fun h h' => ⟨?_, ?_⟩, fun hp hp' h h' => ⟨?_, ?_⟩, fun hp hp' h h' => ?_⟩
  · rw [Venue.commands_only_eq_iff_shadows (by decide) (fun _ => rfl) (fun _ => rfl) h h',
      Venue.same_pair_iff (by decide), Venue.shadows_deribit_iff, Venue.shadows_deribit_iff]
  · exact Venue.commands_ne_of_not_mem_dot (by decide) (fun _ => rfl) (fun _ => rfl) h h'
  · rw [Venue.commands_only_eq_iff_shadows (by decide) (absurd · hp) (absurd · hp') h h',
      Venue.same_pair_iff (by decide), Venue.shadows_huobi_iff, Venue.shadows_huobi_iff]
  · exact Venue.commands_ne_of_not_mem_dot (by decide) (absurd · hp) (absurd · hp') h h'
  · have hnone : ∀ p q, ¬ Venue.binance.Shadows p q := by
      rintro p q ⟨o, ho, -⟩
      cases ho
    rw [Venue.commands_only_eq_iff_shadows (by decide) (absurd · hp) (absurd · hp') h h']
    simp only [hnone, or_false, Venue.spelling]

/-- On Deribit the top of a book is the book of a longer symbol, but not the quote.  On Huobi trades
    are the ticker of a longer symbol, and on Binance capitals make no difference. -/
theorem Venue.commands_collide_iff_perpetual :
    ∃ (s : Selection) (top book quote trades ticker capital small : List String),
      Venue.deribit.commands (s.only (.l2TopK, "BTC-PERPETUAL")) = .ok top ∧
      Venue.deribit.commands (s.only (.l2Event, "BTC-PERPETUAL.5.10")) = .ok book ∧
      Venue.deribit.commands (s.only (.bbo, "BTC-PERPETUAL")) = .ok quote ∧
      Venue.huobi.commands (s.only (.trade, "btcusdt")) = .ok trades ∧
      Venue.huobi.commands (s.only (.ticker, "btcusdt.trade")) = .ok ticker ∧
      Venue.binance.commands (s.only (.bbo, "BTCUSDT")) = .ok capital ∧
      Venue.binance.commands (s.only (.bbo, "btcusdt")) = .ok small ∧
      top = book ∧ top ≠ quote ∧ trades = ticker ∧ capital = small := by
  let s : Selection := { messages := [], symbols := [] }
  have hbuilt : ∀ x : Except Error (List String), x.toBool → ∃ commands, x = .ok commands := by
    rintro (e | commands) h
    · cases h
    · exact ⟨commands, rfl⟩
  obtain ⟨top, htop⟩ :=
    hbuilt (Venue.deribit.commands (s.only (.l2TopK, "BTC-PERPETUAL"))) (by decide +kernel)
  obtain ⟨book, hbook⟩ :=
    hbuilt (Venue.deribit.commands (s.only (.l2Event, "BTC-PERPETUAL.5.10"))) (by decide +kernel)
  obtain ⟨quote, hquote⟩ :=
    hbuilt (Venue.deribit.commands (s.only (.bbo, "BTC-PERPETUAL"))) (by decide +kernel)
  obtain ⟨trades, htrades⟩ :=
    hbuilt (Venue.huobi.commands (s.only (.trade, "btcusdt"))) (by decide +kernel)
  obtain ⟨ticker, hticker⟩ :=
    hbuilt (Venue.huobi.commands (s.only (.ticker, "btcusdt.trade"))) (by decide +kernel)
  obtain ⟨capital, hcapital⟩ :=
    hbuilt (Venue.binance.commands (s.only (.bbo, "BTCUSDT"))) (by decide +kernel)
  obtain ⟨small, hsmall⟩ :=
    hbuilt (Venue.binance.commands (s.only (.bbo, "btcusdt"))) (by decide +kernel)
  refine ⟨s, top, book, quote, trades, ticker, capital, small, htop, hbook, hquote, htrades,
    hticker, hcapital, hsmall, ?_, ?_, ?_, ?_⟩
  · obtain ⟨hderibit, -, -⟩ := Venue.commands_collide_iff s _ _ top book
    exact (hderibit htop hbook).1.mpr (.inr (.inl ⟨"BTC-PERPETUAL", rfl, rfl⟩))
  · obtain ⟨hderibit, -, -⟩ := Venue.commands_collide_iff s _ _ top quote
    exact (hderibit htop hquote).2 (by decide) (by decide) (by decide)
  · obtain ⟨-, hhuobi, -⟩ := Venue.commands_collide_iff s _ _ trades ticker
    exact (hhuobi (by decide) (by decide) htrades hticker).1.mpr
      (.inr (.inl ⟨"btcusdt", rfl, rfl⟩))
  · obtain ⟨-, -, hbinance⟩ := Venue.commands_collide_iff s _ _ capital small
    exact (hbinance (by decide) (by decide) hcapital hsmall).mpr ⟨rfl, by decide +kernel⟩

end MarketFeed
