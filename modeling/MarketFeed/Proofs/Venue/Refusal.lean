import MarketFeed.Proofs.Pairs
import MarketFeed.Proofs.Venue.Stream
import MarketFeed.Request

namespace MarketFeed

/-!
# Requests — what is refused, and why

Each venue has two descriptions of what it offers: the list `Venue.messages`, and the table of
streams inside its format.  This file ties them together and reads off what comes of a request.

* `Venue.carries_topics`, `Venue.carries_frames` — the tables of all formats do.
* `Venue.refusal?` — why a venue refuses a message type; it does not look at symbols.
* `Venue.frames_eq_error`, `Venue.frames_eq_ok` — the first refused message type decides.
* `Request.commands_congr_exchange`, `Request.build_congr_params` — how an exchange is called, and
  parameters other than the interval of candlesticks, do not matter.
* `Request.commands_outcome` — the outcome of every request.
-/

variable {α : Type}

/-! ### What the venues offer -/

/-- The topics of a batched format are those of the venue's message types. -/
theorem Venue.carries_topics {v : Venue} {format : Batched} (h : v.format = .batched format)
    (symbol : String) : Carries v.messages (format.topic? symbol) := by
  cases v <;> cases h
  all_goals
    constructor
    · intro m
      cases m <;> rfl
    · intro m s hs
      cases m <;> cases hs <;> rfl

/-- The commands of a single format are those of the venue's message types. -/
theorem Venue.carries_frames {v : Venue} {format : Single} (h : v.format = .single format)
    (subscribe : Bool) (symbol : String) :
    Carries v.messages (format.frame? subscribe symbol) := by
  cases v <;> cases h
  all_goals
    constructor
    · intro m
      cases m <;> rfl
    · intro m s hs
      cases m <;> cases hs <;> rfl

/-! ### Refusals -/

/-- Why a venue refuses a message type: it has no channel for it, or the channel needs an interval
    that is not given. -/
def Venue.refusal? (v : Venue) (params : Params) (m : MessageType) : Option Error :=
  if m ∉ v.messages then some (.noChannel v.exchange m)
  else if m = .candlestick ∧ params.get? "interval" = none then some (.missingParam "interval")
  else none

/-- Nothing is refused that the venue carries, with its interval if it needs one. -/
theorem Venue.refusal?_eq_none_iff (v : Venue) (params : Params) (m : MessageType) :
    v.refusal? params m = none ↔
      m ∈ v.messages ∧ (m = .candlestick → (params.get? "interval").isSome) := by
  unfold Venue.refusal?
  by_cases hm : m ∈ v.messages
  · rw [if_neg (not_not.mpr hm), Option.isSome_iff_ne_none]
    simp [hm]
  · simp [hm]

/-- A venue refuses a message type for want of a channel, or of the interval. -/
theorem Venue.refusal?_eq_some_iff {v : Venue} {params : Params} {m : MessageType} {err : Error} :
    v.refusal? params m = some err ↔
      (m ∉ v.messages ∧ err = .noChannel v.exchange m) ∨
      (m ∈ v.messages ∧ m = .candlestick ∧ params.get? "interval" = none ∧
        err = .missingParam "interval") := by
  unfold Venue.refusal?
  by_cases hm : m ∈ v.messages
  · simp [hm, and_assoc, eq_comm]
  · simp [hm, eq_comm]

variable {v : Venue} {stream? : MessageType → Option (Stream α)} {params : Params}
  {m : MessageType}

/-- A refused message type has no stream. -/
theorem Venue.resolve_eq_error (hc : Carries v.messages stream?) {e : Error}
    (h : v.refusal? params m = some e) : v.resolve params m (stream? m) = .error e := by
  unfold Venue.refusal? at h
  split at h
  · rename_i hm
    -- there is no channel
    have hnone : stream? m = none := by
      rw [← Option.not_isSome_iff_eq_none, hc.isSome_iff]
      exact hm
    rw [hnone, ← Option.some.inj h]
    rfl
  · rename_i hm
    obtain ⟨s, hs⟩ := Option.isSome_iff_exists.mp ((hc.isSome_iff m).mpr (not_not.mp hm))
    split at h
    · rename_i hinterval
      -- there is one, and it waits for the interval
      have htimed := (hc.isTimed_iff hs).mpr hinterval.1
      rw [hs, ← Option.some.inj h]
      cases s with
      | ready a => cases htimed
      | timed f => simp [Venue.resolve, Stream.resolve, Params.interval, hinterval.2]
    · cases h

/-- A message type that is not refused has a stream. -/
theorem Venue.resolve_eq_ok (hc : Carries v.messages stream?) (h : v.refusal? params m = none) :
    ∃ a, v.resolve params m (stream? m) = .ok a := by
  unfold Venue.refusal? at h
  split at h
  · cases h
  · rename_i hm
    obtain ⟨s, hs⟩ := Option.isSome_iff_exists.mp ((hc.isSome_iff m).mpr (not_not.mp hm))
    split at h
    · cases h
    · rename_i hinterval
      rw [hs]
      cases s with
      | ready a => exact ⟨a, rfl⟩
      | timed f =>
        have hm' : m = .candlestick := (hc.isTimed_iff hs).mp rfl
        obtain ⟨i, hi⟩ := Option.ne_none_iff_exists'.mp fun hi => hinterval ⟨hm', hi⟩
        exact ⟨f i, by simp [Venue.resolve, Stream.resolve, Params.interval, hi]⟩

/-! ### Selections -/

variable {s : Selection}

/-- The first message type that a venue refuses decides the error of a selection. -/
theorem Venue.frames_eq_error {e : Error} (hsymbols : s.symbols ≠ [])
    (h : s.messages.findSome? (v.refusal? s.params) = some e) : v.frames s = .error e := by
  unfold Venue.frames
  -- both kinds of format walk over the pairs, and a message type is refused for every symbol
  split
  · rename_i format hformat
    rw [forEachPair_eq_error (fun m symbol e => Venue.resolve_eq_error
        (v.carries_topics hformat symbol)) (fun m symbol => Venue.resolve_eq_ok
        (v.carries_topics hformat symbol)) hsymbols h, error_bind]
  · rename_i format hformat
    exact forEachPair_eq_error (fun m symbol e => Venue.resolve_eq_error
      (v.carries_frames hformat s.subscribe symbol)) (fun m symbol => Venue.resolve_eq_ok
      (v.carries_frames hformat s.subscribe symbol)) hsymbols h

/-- A selection without refused message types has commands, and at least one unless it is empty. -/
theorem Venue.frames_eq_ok (h : s.messages.findSome? (v.refusal? s.params) = none) :
    ∃ frames, v.frames s = .ok frames ∧ (s.messages ≠ [] → s.symbols ≠ [] → frames ≠ []) := by
  unfold Venue.frames
  split
  · rename_i format hformat
    obtain ⟨topics, htopics⟩ := forEachPair_eq_ok (fun m symbol => Venue.resolve_eq_ok
      (v.carries_topics hformat symbol)) s.symbols h
    rw [htopics, ok_bind]
    exact ⟨_, rfl, fun _ _ => List.cons_ne_nil _ _⟩
  · rename_i format hformat
    obtain ⟨frames, hframes⟩ := forEachPair_eq_ok (fun m symbol => Venue.resolve_eq_ok
      (v.carries_frames hformat s.subscribe symbol)) s.symbols h
    refine ⟨frames, hframes, ?_⟩
    -- there is one frame for each pair
    intro hmessages hsymbols hnil
    have hlen := forEachPair_length hframes
    rw [hnil, List.length_nil, eq_comm, Nat.mul_eq_zero] at hlen
    simp [hmessages, hsymbols] at hlen

/-- The commands of a selection fail as its frames do. -/
theorem Venue.commands_eq_error {e : Error} (hsymbols : s.symbols ≠ [])
    (h : s.messages.findSome? (v.refusal? s.params) = some e) : v.commands s = .error e := by
  rw [Venue.commands, Venue.frames_eq_error hsymbols h, error_bind]

/-- The commands of a selection are there when its frames are. -/
theorem Venue.commands_eq_ok (h : s.messages.findSome? (v.refusal? s.params) = none) :
    ∃ commands, v.commands s = .ok commands ∧
      (s.messages ≠ [] → s.symbols ≠ [] → commands ≠ []) := by
  obtain ⟨frames, hframes, hne⟩ := Venue.frames_eq_ok h
  refine ⟨frames.map Frame.text, by rw [Venue.commands, hframes, ok_bind, pure_eq_ok], ?_⟩
  intro hmessages hsymbols hnil
  exact hne hmessages hsymbols (List.map_eq_nil_iff.mp hnil)

/-! ### Requests -/

/-- Why a request for something is refused: its exchange is unknown, or has no format, or refuses
    one of the message types.  Symbols have no say in it. -/
def Request.refusal? (exchange : String) (messages : List MessageType) (params : Params) :
    Option Error :=
  match Vocabulary.parse? (α := Exchange) exchange with
  | none => some (.unknownName .exchange exchange)
  | some e =>
    match e.venue? with
    | none => some (.noFormat e)
    | some v => messages.findSome? (v.refusal? params)

variable {r : Request}

/-- A request for nothing has no commands. -/
theorem Request.commands_of_isEmpty (h : r.selection.isEmpty) : r.commands = .ok [] := by
  rw [Request.commands, Request.build, if_pos h, fmap_ok]

/-- A request for something is passed to the venue that its exchange names. -/
theorem Request.commands_of_not_isEmpty (h : ¬ r.selection.isEmpty) {e : Exchange}
    (he : Vocabulary.parse? r.exchange = some e) {v : Venue} (hv : e.venue? = some v) :
    r.commands = v.commands r.selection := by
  rw [Request.commands, Request.build, if_neg h, Vocabulary.parse_eq_ok he, ok_bind, hv]
  cases hc : v.commands r.selection <;> simp [hc]

/-- A refused request fails, if it is for something. -/
theorem Request.commands_eq_error (h : ¬ r.selection.isEmpty) {e : Error}
    (hr : Request.refusal? r.exchange r.selection.messages r.selection.params = some e) :
    r.commands = .error e := by
  have hsymbols : r.selection.symbols ≠ [] := by
    intro hnil
    simp [Selection.isEmpty, hnil] at h
  unfold Request.refusal? at hr
  -- the request fails where its refusal is found: at the name, the format or a message type
  cases he : Vocabulary.parse? (α := Exchange) r.exchange with
  | none =>
    rw [he] at hr
    rw [Request.commands, Request.build, if_neg h, Vocabulary.parse_eq_error he, error_bind,
      fmap_error, ← Option.some.inj hr]
    rfl
  | some x =>
    rw [he] at hr
    cases hv : x.venue? with
    | none =>
      simp only [hv] at hr
      rw [Request.commands, Request.build, if_neg h, Vocabulary.parse_eq_ok he, ok_bind, hv,
        ← Option.some.inj hr]
      rfl
    | some v =>
      simp only [hv] at hr
      rw [Request.commands_of_not_isEmpty h he hv, Venue.commands_eq_error hsymbols hr]

/-- A request that is not refused succeeds. -/
theorem Request.commands_eq_ok
    (hr : Request.refusal? r.exchange r.selection.messages r.selection.params = none) :
    ∃ commands, r.commands = .ok commands := by
  by_cases h : r.selection.isEmpty
  · exact ⟨[], Request.commands_of_isEmpty h⟩
  · unfold Request.refusal? at hr
    split at hr
    · cases hr
    · rename_i e he
      split at hr
      · cases hr
      · rename_i v hv
        obtain ⟨commands, hcommands, -⟩ := Venue.commands_eq_ok hr
        exact ⟨commands, by rw [Request.commands_of_not_isEmpty h he hv, hcommands]⟩

/-- The errors of requests for something are their refusals. -/
theorem Request.commands_eq_error_iff (h : ¬ r.selection.isEmpty) (e : Error) :
    r.commands = .error e ↔
      Request.refusal? r.exchange r.selection.messages r.selection.params = some e := by
  constructor
  · intro hr
    cases hrefusal : Request.refusal? r.exchange r.selection.messages r.selection.params with
    | none =>
      obtain ⟨commands, hcommands⟩ := Request.commands_eq_ok hrefusal
      rw [hcommands] at hr
      cases hr
    | some e' =>
      rw [Request.commands_eq_error h hrefusal] at hr
      rw [Except.error.inj hr]
  · exact Request.commands_eq_error h

/-- What the symbols are matters for no error, as long as there are some. -/
theorem Request.commands_eq_error_congr {r' : Request} (hexchange : r'.exchange = r.exchange)
    (hmessages : r'.selection.messages = r.selection.messages)
    (hparams : r'.selection.params = r.selection.params)
    (hsymbols : r.selection.symbols ≠ []) (hsymbols' : r'.selection.symbols ≠ []) (e : Error) :
    r.commands = .error e ↔ r'.commands = .error e := by
  by_cases hnil : r.selection.messages = []
  · have h : r.selection.isEmpty := by simp [Selection.isEmpty, hnil]
    have h' : r'.selection.isEmpty := by simp [Selection.isEmpty, hmessages, hnil]
    rw [Request.commands_of_isEmpty h, Request.commands_of_isEmpty h']
  · have h : ¬ r.selection.isEmpty := by simp [Selection.isEmpty, hnil, hsymbols]
    have h' : ¬ r'.selection.isEmpty := by simp [Selection.isEmpty, hmessages, hnil, hsymbols']
    rw [Request.commands_eq_error_iff h, Request.commands_eq_error_iff h', hexchange, hmessages,
      hparams]

/-- Two names of one exchange make the same request. -/
theorem Request.commands_congr_exchange {r' : Request} (hselection : r'.selection = r.selection)
    {e : Exchange} (he : Vocabulary.parse? r.exchange = some e)
    (he' : Vocabulary.parse? r'.exchange = some e) : r'.commands = r.commands := by
  by_cases h : r.selection.isEmpty
  · rw [Request.commands_of_isEmpty h, Request.commands_of_isEmpty (hselection ▸ h)]
  · have h' : ¬ r'.selection.isEmpty := hselection ▸ h
    -- from the exchange on, the names are not looked at again
    cases hv : e.venue? with
    | none =>
      have hr : r.commands = .error (.noFormat e) :=
        Request.commands_eq_error h (by simp only [Request.refusal?, he, hv])
      have hr' : r'.commands = .error (.noFormat e) :=
        Request.commands_eq_error h' (by simp only [Request.refusal?, he', hv])
      rw [hr, hr']
    | some v =>
      rw [Request.commands_of_not_isEmpty h he hv, Request.commands_of_not_isEmpty h' he' hv,
        hselection]

/-- Of the parameters of a selection a venue reads the interval alone, and only for candlesticks. -/
theorem Venue.frames_congr {params : Params}
    (h : .candlestick ∈ s.messages → .candlestick ∈ v.messages →
      params.get? "interval" = s.params.get? "interval") :
    v.frames { s with params } = v.frames s := by
  -- the parameters are read where a candlestick is, and nowhere else
  have hinterval : ∀ m ∈ s.messages, m = .candlestick → m ∈ v.messages →
      params.get? "interval" = s.params.get? "interval" := by
    rintro _ hm rfl hmem
    exact h hm hmem
  unfold Venue.frames
  split
  · rename_i format hformat
    rw [forEachPair_congr fun m hm symbol _ =>
      (Venue.carries_topics hformat symbol).resolve_congr (hinterval m hm) v]
  · rename_i format hformat
    exact forEachPair_congr fun m hm symbol _ =>
      (Venue.carries_frames hformat s.subscribe symbol).resolve_congr (hinterval m hm) v

/-- Of the parameters of a request the interval alone matters, and only if it is for candlesticks that
    its venue has. -/
theorem Request.build_congr_params {params : Params}
    (h : ∀ e v, Vocabulary.parse? (α := Exchange) r.exchange = some e → e.venue? = some v →
      .candlestick ∈ r.selection.messages → .candlestick ∈ v.messages →
      params.get? "interval" = r.selection.params.get? "interval") :
    Request.build { r with selection := { r.selection with params } } = r.build := by
  unfold Request.build
  by_cases hempty : r.selection.isEmpty
  · rw [if_pos hempty]
    exact if_pos hempty
  · rw [if_neg hempty]
    refine (if_neg hempty).trans ?_
    cases he : Vocabulary.parse? (α := Exchange) r.exchange with
    | none => rw [Vocabulary.parse_eq_error he, error_bind, error_bind]
    | some e =>
      rw [Vocabulary.parse_eq_ok he, ok_bind, ok_bind]
      cases hv : e.venue? with
      | none => rfl
      | some v =>
        have hcommands : v.commands { r.selection with params } = v.commands r.selection := by
          rw [Venue.commands, Venue.commands, Venue.frames_congr (h e v he hv)]
        simp only [pure_eq_ok, ok_bind, hcommands]

/-- Of the parameters of a request the interval alone matters. -/
theorem Request.commands_congr_params {params : Params}
    (h : params.get? "interval" = r.selection.params.get? "interval") :
    Request.commands { r with selection := { r.selection with params } } = r.commands := by
  rw [Request.commands, Request.build_congr_params fun _ _ _ _ _ _ => h, Request.commands]

/-- **The outcome of a request.**  A request for nothing has no commands, whatever its exchange is
    called.  Any other fails on an unknown name, then on an exchange without a format, then on the
    first message type its venue refuses; else it has the venue's commands, at least one.  What the
    symbols are matters for no failure, and the exchange matters only as the term it names. -/
theorem Request.commands_outcome (r : Request) :
    (r.selection.messages = [] ∨ r.selection.symbols = [] → r.commands = .ok []) ∧
    (r.selection.messages ≠ [] → r.selection.symbols ≠ [] →
      (Vocabulary.parse? (α := Exchange) r.exchange = none →
        r.commands = .error (.unknownName .exchange r.exchange)) ∧
      ∀ e, Vocabulary.parse? (α := Exchange) r.exchange = some e →
        (e.venue? = none → r.commands = .error (.noFormat e)) ∧
        ∀ v, e.venue? = some v →
          (∀ before m after, r.selection.messages = before ++ m :: after →
            (∀ b ∈ before, b ∈ v.messages ∧
              (b = .candlestick → (r.selection.params.get? "interval").isSome)) →
            (m ∉ v.messages → r.commands = .error (.noChannel e m)) ∧
            (m ∈ v.messages → m = .candlestick → r.selection.params.get? "interval" = none →
              r.commands = .error (.missingParam "interval"))) ∧
          ((∀ m ∈ r.selection.messages, m ∈ v.messages ∧
              (m = .candlestick → (r.selection.params.get? "interval").isSome)) →
            ∃ commands, commands ≠ [] ∧ v.commands r.selection = .ok commands ∧
              r.commands = .ok commands)) ∧
    (∀ symbols, r.selection.symbols ≠ [] → symbols ≠ [] → ∀ e, r.commands = .error e ↔
      Request.commands { r with selection := { r.selection with symbols } } = .error e) ∧
    (∀ exchange e, Vocabulary.parse? (α := Exchange) r.exchange = some e →
      Vocabulary.parse? exchange = some e →
      Request.commands { r with exchange } = r.commands) := by
  refine ⟨?_, ?_, ?_, fun exchange e he he' => Request.commands_congr_exchange rfl he he'⟩
  · -- nothing is asked for
    intro h
    apply Request.commands_of_isEmpty
    simpa [Selection.isEmpty] using h
  · intro hmessages hsymbols
    have hne : ¬ r.selection.isEmpty := by simp [Selection.isEmpty, hmessages, hsymbols]
    refine ⟨?_, ?_⟩
    · intro he
      exact Request.commands_eq_error hne (by simp only [Request.refusal?, he])
    · intro e he
      refine ⟨?_, ?_⟩
      · intro hv
        exact Request.commands_eq_error hne (by simp only [Request.refusal?, he, hv])
      · intro v hv
        rw [Request.commands_of_not_isEmpty hne he hv]
        refine ⟨?_, ?_⟩
        · -- the first refused message type decides
          intro before m after hsplit hbefore
          have hfirst : ∀ err, v.refusal? r.selection.params m = some err →
              v.commands r.selection = .error err := by
            intro err hm
            apply Venue.commands_eq_error hsymbols
            rw [List.findSome?_eq_some_iff]
            exact ⟨before, m, after, hsplit, hm,
              fun b hb => (v.refusal?_eq_none_iff _ b).mpr (hbefore b hb)⟩
          refine ⟨fun hm => ?_, fun hm hc hi => ?_⟩
          · apply hfirst
            rw [Venue.refusal?, if_pos hm, Exchange.venue?_eq_some_iff.mp hv]
          · apply hfirst
            rw [Venue.refusal?, if_neg (not_not.mpr hm), if_pos ⟨hc, hi⟩]
        · intro hall
          have hnone : r.selection.messages.findSome? (v.refusal? r.selection.params) = none := by
            rw [List.findSome?_eq_none_iff]
            exact fun m hm => (v.refusal?_eq_none_iff _ m).mpr (hall m hm)
          obtain ⟨commands, hcommands, hnil⟩ := Venue.commands_eq_ok hnone
          exact ⟨commands, hnil hmessages hsymbols, hcommands, hcommands⟩
  · intro symbols hsymbols hsymbols' e
    exact @Request.commands_eq_error_congr r { r with selection := { r.selection with symbols } }
      rfl rfl rfl hsymbols hsymbols' e

end MarketFeed
