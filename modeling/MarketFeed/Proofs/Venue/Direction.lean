import MarketFeed.Proofs.Venue.Pairwise

namespace MarketFeed

/-!
# Starting and ending a subscription

The command that ends a subscription is the one that starts it, with one word changed, and that word
comes before anything that was asked for.

* `Venue.opening`, `Venue.verb` — what every command of a venue begins with, and the word for the
  direction, which comes next.
* `Venue.turn`, `Venue.frames_toward` — a frame in one direction or the other; the frames of a
  selection are turned and nothing else.
* `Venue.body`, `Venue.text_turn` — what follows the word does not look at the direction.
* `Venue.Mirrored` — two outcomes that differ in the word alone.
* `Venue.verb_append_ne` — no text begins with both words.
* `Request.commands_mirrored` — the commands that start and the commands that end are mirrored, and
  none is both.
-/

/-! ### Directions -/

/-- The same selection, to be started or ended. -/
def Selection.toward (s : Selection) (subscribe : Bool) : Selection := { s with subscribe }

/-- The same request, to be started or ended. -/
def Request.toward (r : Request) (subscribe : Bool) : Request :=
  { r with selection := r.selection.toward subscribe }

section Toward

variable (s : Selection) (subscribe : Bool)

@[simp] theorem Selection.messages_toward : (s.toward subscribe).messages = s.messages := rfl

@[simp] theorem Selection.symbols_toward : (s.toward subscribe).symbols = s.symbols := rfl

@[simp] theorem Selection.params_toward : (s.toward subscribe).params = s.params := rfl

@[simp] theorem Selection.subscribe_toward : (s.toward subscribe).subscribe = subscribe := rfl

end Toward

/-- What every command of a venue begins with. -/
def Venue.opening : Venue → String
  | .binance => "\x7b\"id\":9527, \"method\":\""
  | .bitfinex => "\x7b\"event\":\""
  | .deribit => "\x7b\"method\":\"public/"
  | .huobi => "\x7b\""
  | _ => "\x7b\"op\":\""

/-- The word for starting or ending a subscription. -/
def Venue.verb (v : Venue) (subscribe : Bool) : String :=
  match v with
  | .binance => if subscribe then "SUBSCRIBE" else "UNSUBSCRIBE"
  | .huobi => if subscribe then "sub" else "unsub"
  | _ => if subscribe then "subscribe" else "unsubscribe"

/-! ### Turning a frame -/

/-- The frame with the word for the direction in its place, whatever was there.  On Huobi that is the
    name of a member, elsewhere the value of one. -/
def Venue.turn (v : Venue) (subscribe : Bool) (f : Frame) : Frame where
  members :=
    match v with
    | .binance =>
      { name := "id", value := .json (.number "9527") }
        :: (Member.word "method" (v.verb subscribe)).apart :: f.members.drop 2
    | .bitfinex => Member.word "event" (v.verb subscribe) :: f.members.tail
    | .deribit => Member.word "method" ("public/" ++ v.verb subscribe) :: f.members.tail
    | .huobi =>
      { name := v.verb subscribe, value := f.members.headI.value
        spaceAfter := f.members.headI.spaceAfter } :: f.members.tail
    | _ => Member.word "op" (v.verb subscribe) :: f.members.tail

/-- What comes after the word in a frame. -/
def Venue.body (v : Venue) (f : Frame) : String :=
  match v with
  | .binance => "\"" ++ Frame.closing (f.members.drop 2)
  | .huobi =>
    "\":" ++ (if f.members.headI.spaceAfter then " " else "") ++ f.members.headI.value.text
      ++ Frame.closing f.members.tail
  | _ => "\"" ++ Frame.closing f.members.tail

/-- A frame that names the direction in the value of a member. -/
theorem Venue.text_of_word {v : Venue} {subscribe : Bool} (before : List Member) {m : Member}
    (h : Frame.opening before m ++ m.value.text = v.opening ++ v.verb subscribe ++ "\"")
    (after : List Member) :
    Frame.text { members := before ++ m :: after } =
      v.opening ++ v.verb subscribe ++ ("\"" ++ Frame.closing after) := by
  rw [Frame.text_eq, h, String.append_assoc]

/-- **The direction shows in one word.**  What comes before it depends on the venue, and what comes
    after it on the rest of the frame. -/
theorem Venue.text_turn (v : Venue) (subscribe : Bool) (f : Frame) :
    (v.turn subscribe f).text = v.opening ++ v.verb subscribe ++ v.body f := by
  cases v
  case huobi =>
    -- here the word is the name of the member, so the value comes after it
    have hopening : Venue.opening .huobi = "\x7b" ++ "\"" := rfl
    refine (Frame.text_eq [] _ f.members.tail).trans ?_
    simp [-String.reduceAppend, Frame.opening, Member.label, hopening, Venue.body,
      String.append_assoc]
  case binance =>
    exact Venue.text_of_word [_] (by cases subscribe <;> decide +kernel) _
  all_goals
    exact Venue.text_of_word [] (by cases subscribe <;> decide +kernel) _

/-! ### Turning a selection -/

/-- The command of a batched format names the direction where the venue does. -/
theorem Venue.frame_eq_turn {v : Venue} {format : Batched} (h : v.format = .batched format)
    (subscribe : Bool) (topics : List Json) :
    format.frame subscribe topics = v.turn subscribe (format.frame true topics) := by
  cases v <;> cases h <;> rfl

/-- The command of a single format names the direction where the venue does. -/
theorem Venue.frame?_eq_turn {v : Venue} {format : Single} (h : v.format = .single format)
    (subscribe : Bool) (symbol : String) (m : MessageType) :
    format.frame? subscribe symbol m =
      (format.frame? true symbol m).map (Stream.map (v.turn subscribe)) := by
  cases v <;> cases h
  case bitfinex => cases m <;> rfl
  case ftx => cases m <;> rfl
  case huobi =>
    have hframe : ∀ topic,
        huobiFrame subscribe topic = Venue.huobi.turn subscribe (huobiFrame true topic) := by
      intro topic
      unfold huobiFrame
      split <;> rfl
    have hready : ∀ channel, Single.huobi.ready subscribe symbol channel =
        (Single.huobi.ready true symbol channel).map (Stream.map (Venue.huobi.turn subscribe)) :=
      fun channel => congrArg (some ∘ Stream.ready) (hframe _)
    cases m with
    | candlestick => exact congrArg (some ∘ Stream.timed) (funext fun i => hframe _)
    | trade | l2Event | l2TopK | bbo | ticker => exact hready _
    | _ => rfl

/-- **The frames that end a subscription are those that start it, turned.** -/
theorem Venue.frames_toward (v : Venue) (s : Selection) (subscribe : Bool) :
    v.frames (s.toward subscribe) = List.map (v.turn subscribe) <$> v.frames (s.toward true) := by
  unfold Venue.frames
  simp only [Selection.messages_toward, Selection.symbols_toward, Selection.params_toward,
    Selection.subscribe_toward]
  cases h : v.format with
  | batched format =>
    -- the topics do not look at the direction
    dsimp only
    cases forEachPair s.messages s.symbols fun m symbol =>
        v.resolve s.params m (format.topic? symbol m) with
    | error e => rfl
    | ok topics =>
      exact congrArg (fun f => Except.ok [f]) (Venue.frame_eq_turn h subscribe topics)
  | single format =>
    -- each frame is turned on its own
    simp only [forEachPair_eq_mapM, ← mapM_fmap, ← Venue.resolve_map,
      ← Venue.frame?_eq_turn h subscribe]

/-! ### Commands -/

/-- What comes after the word for the direction in the commands of a selection. -/
def Venue.bodies (v : Venue) (s : Selection) : Except Error (List String) :=
  List.map v.body <$> v.frames (s.toward true)

/-- **The commands of a selection are its bodies behind the word for the direction.** -/
theorem Venue.commands_toward (v : Venue) (s : Selection) (subscribe : Bool) :
    v.commands (s.toward subscribe) =
      List.map (fun body => v.opening ++ v.verb subscribe ++ body) <$> v.bodies s := by
  unfold Venue.commands Venue.bodies
  rw [Venue.frames_toward]
  cases v.frames (s.toward true) with
  | error e => rfl
  | ok fs =>
    simp only [fmap_ok, ok_bind, pure_eq_ok, List.map_map, Except.ok.injEq]
    exact List.map_congr_left fun f _ => Venue.text_turn v subscribe f

/-- Two outcomes are one failure, or commands that differ in the word for the direction alone. -/
def Venue.Mirrored (v : Venue) (on off : Except Error (List String)) : Prop :=
  (∃ e, on = .error e ∧ off = .error e) ∨
    ∃ bodies : List String,
      on = .ok (bodies.map fun body => v.opening ++ v.verb true ++ body) ∧
      off = .ok (bodies.map fun body => v.opening ++ v.verb false ++ body)

/-- The commands for both directions are mirror images. -/
theorem Venue.mirrored_commands (v : Venue) (s : Selection) :
    v.Mirrored (v.commands (s.toward true)) (v.commands (s.toward false)) := by
  rw [Venue.commands_toward, Venue.commands_toward]
  cases v.bodies s with
  | error e => exact .inl ⟨e, rfl, rfl⟩
  | ok bodies => exact .inr ⟨bodies, rfl, rfl⟩

/-- No text begins with both words. -/
theorem Venue.verb_append_ne (v : Venue) (a b : String) :
    v.verb true ++ a ≠ v.verb false ++ b :=
  append_ne_of_not_isPrefix (by cases v <;> decide) (by cases v <;> decide) a b

/-- No command starts a subscription and ends one. -/
theorem Venue.disjoint_commands {v : Venue} {s s' : Selection} {commands commands' : List String}
    (h : v.commands (s.toward true) = .ok commands)
    (h' : v.commands (s'.toward false) = .ok commands') : commands.Disjoint commands' := by
  rw [Venue.commands_toward] at h h'
  obtain ⟨bodies, -, rfl⟩ := map_eq_ok_iff.mp h
  obtain ⟨bodies', -, rfl⟩ := map_eq_ok_iff.mp h'
  intro c hc hc'
  obtain ⟨body, -, rfl⟩ := List.mem_map.mp hc
  obtain ⟨body', -, heq⟩ := List.mem_map.mp hc'
  -- both begin alike, up to the word for the direction
  rw [String.append_assoc, String.append_assoc, String.append_right_inj] at heq
  exact v.verb_append_ne body body' heq.symm

/-! ### Requests -/

/-- The commands of a request in some direction are those of its venue, unless it is for nothing. -/
theorem Request.commands_toward {r : Request} {v : Venue}
    (hv : Vocabulary.parse? r.exchange = some v.exchange) (subscribe : Bool) :
    (r.toward subscribe).commands =
      if r.selection.isEmpty then .ok [] else v.commands (r.selection.toward subscribe) := by
  split
  · rename_i h
    exact @Request.commands_of_isEmpty (r.toward subscribe) h
  · rename_i h
    have hvenue : v.exchange.venue? = some v := Exchange.venue?_eq_some_iff.mpr rfl
    exact @Request.commands_of_not_isEmpty (r.toward subscribe) h _ hv _ hvenue

/-- **Starting and ending a subscription mirror each other and are never confused.**  In the two
    directions a selection fails alike, or has commands that differ in one word, which comes before
    anything that was asked for.  No command of a selection that is started is one of a selection
    that is ended, whatever the two ask for.  The same holds of requests, however the exchange is
    called. -/
theorem Request.commands_mirrored (v : Venue) :
    (v.verb true, v.verb false) ∈
      [("SUBSCRIBE", "UNSUBSCRIBE"), ("sub", "unsub"), ("subscribe", "unsubscribe")] ∧
    (∀ s : Selection, v.Mirrored (v.commands (s.toward true)) (v.commands (s.toward false))) ∧
    (∀ (s s' : Selection) (commands commands' : List String),
      v.commands (s.toward true) = .ok commands → v.commands (s'.toward false) = .ok commands' →
      ∀ c ∈ commands, ∀ c' ∈ commands', c ≠ c') ∧
    (∀ r : Request, Vocabulary.parse? r.exchange = some v.exchange →
      v.Mirrored (r.toward true).commands (r.toward false).commands) ∧
    (∀ (r r' : Request) (commands commands' : List String),
      Vocabulary.parse? r.exchange = some v.exchange →
      Vocabulary.parse? r'.exchange = some v.exchange →
      (r.toward true).commands = .ok commands → (r'.toward false).commands = .ok commands' →
      ∀ c ∈ commands, ∀ c' ∈ commands', c ≠ c') := by
  have hdistinct : ∀ (s s' : Selection) (commands commands' : List String),
      v.commands (s.toward true) = .ok commands → v.commands (s'.toward false) = .ok commands' →
      ∀ c ∈ commands, ∀ c' ∈ commands', c ≠ c' := by
    rintro s s' commands commands' h h' c hc _ hc' rfl
    exact Venue.disjoint_commands h h' hc hc'
  refine ⟨by cases v <;> decide, v.mirrored_commands, hdistinct, ?_, ?_⟩
  · intro r hv
    rw [Request.commands_toward hv, Request.commands_toward hv]
    split
    · exact .inr ⟨[], rfl, rfl⟩
    · exact v.mirrored_commands r.selection
  · intro r r' commands commands' hv hv' h h'
    rw [Request.commands_toward hv] at h
    rw [Request.commands_toward hv'] at h'
    split at h
    · -- a request for nothing has no commands
      obtain rfl := Except.ok.inj h
      exact fun c hc => by cases hc
    · split at h'
      · obtain rfl := Except.ok.inj h'
        exact fun c _ c' hc' => by cases hc'
      · exact hdistinct _ _ _ _ h h'

/-- A symbol for Huobi that looks like the end of a subscription does not make one, and OKX refuses
    best bid and offer in both directions. -/
theorem Request.commands_mirrored_huobi :
    ∃ (s s' : Selection) (start stop : String),
      Venue.huobi.commands (s.toward true) = .ok [start] ∧
      Venue.huobi.commands (s'.toward false) = .ok [stop] ∧
      start = "\x7b\"sub\":\"market.\",\"unsub\":\"market.btcusdt.detail\",\"id\":\"crypto-ws-client\"\x7d" ∧
      stop = "\x7b\"unsub\":\"market.btcusdt.detail\",\"id\":\"crypto-ws-client\"\x7d" ∧
      start ≠ stop ∧
      ∃ (r : Request) (e : Error), r.exchange = " OKX" ∧ r.selection.messages = [.bbo] ∧
        (r.toward true).commands = .error e ∧ (r.toward false).commands = .error e := by
  let s : Selection := { messages := [.ticker], symbols := ["\",\"unsub\":\"market.btcusdt"] }
  let s' : Selection := { messages := [.ticker], symbols := ["btcusdt"] }
  let r : Request := { exchange := " OKX", selection := { messages := [.bbo], symbols := ["BTC-USDT"] } }
  have hstart : Venue.huobi.commands (s.toward true) = .ok
      ["\x7b\"sub\":\"market.\",\"unsub\":\"market.btcusdt.detail\",\"id\":\"crypto-ws-client\"\x7d"] := by
    decide +kernel
  have hstop : Venue.huobi.commands (s'.toward false) = .ok
      ["\x7b\"unsub\":\"market.btcusdt.detail\",\"id\":\"crypto-ws-client\"\x7d"] := by
    decide +kernel
  have hokx : Vocabulary.parse? " OKX" = some Venue.okx.exchange := by decide +kernel
  have hrefused : (r.toward true).commands = .error (.noChannel .okx .bbo) := by decide +kernel
  obtain ⟨-, -, hdistinct, -, -⟩ := Request.commands_mirrored .huobi
  obtain ⟨-, -, -, hmirrored, -⟩ := Request.commands_mirrored .okx
  refine ⟨s, s', _, _, hstart, hstop, rfl, rfl,
    hdistinct s s' _ _ hstart hstop _ (List.mem_singleton_self _) _ (List.mem_singleton_self _),
    r, .noChannel .okx .bbo, rfl, rfl, hrefused, ?_⟩
  rcases hmirrored r hokx with ⟨e, hon, hoff⟩ | ⟨bodies, hon, -⟩
  · rw [hoff, ← hon, hrefused]
  · rw [hrefused] at hon
    cases hon

end MarketFeed
