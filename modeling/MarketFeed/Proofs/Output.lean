import MarketFeed.Program
import MarketFeed.Proofs.Log.Filter
import MarketFeed.Proofs.Text.Split
import MarketFeed.Proofs.Venue.Batched
import MarketFeed.Proofs.Venue.Single

namespace MarketFeed

/-!
# What is printed

* `Text.lines_unlines` — lines without line feeds are found again in what is printed of them.
* `Venue.IsSafe`, `Request.IsSafe` — what a venue sets between quotes is legal there.
* `Venue.frames_isIntact_iff` — the frames of a selection are intact just when it is safe.
* `Invocation.requests`, `Invocation.frames`, `Invocation.commands` — what a command line asks for,
  and what is built of it.
* `Plan.Progress.outputs_foldl`, `Plan.outputs_report` — what a plan prints, entry by entry.
* `Invocation.stdout_runWith` — the output is the commands, one line each.
* `Invocation.lines_iff` — the lines of the output are the commands, and every command is what was
  meant, just when all requests that succeed are safe.
-/

open Json

/-! ### Lines -/

/-- **Lines are found again in what is printed of them.** -/
theorem Text.lines_unlines {outputs : List String} (h : ∀ line ∈ outputs, '\n' ∉ line.toList) :
    Text.lines (unlines outputs) = outputs ++ [""] := by
  induction outputs with
  | nil => rfl
  | cons line rest ih =>
    have hline := h line List.mem_cons_self
    have hrest := ih fun l hl => h l (List.mem_cons_of_mem line hl)
    have htext : (unlines (line :: rest)).toList = line.toList ++ '\n' :: (unlines rest).toList := by
      simp [unlines]
    rw [Text.lines, Text.splitOn, htext, Text.splitChars_append, Text.splitChars_of_not_mem hline,
      List.singleton_append, List.map_cons, String.ofList_toList, List.cons_append, ← hrest]
    rfl

/-- A text without control characters is one line. -/
theorem Json.Printable.not_mem_newline {text : List Char} (h : Printable text) : '\n' ∉ text := by
  intro hmem
  exact absurd (h '\n' hmem) (by decide)

/-! ### Venues -/

/-- All that the selection lets a venue set between quotes is legal there.  A venue with batched
    commands sets nothing between quotes. -/
def Venue.IsSafe (v : Venue) (s : Selection) : Prop :=
  (∃ format, v.format = .single format) → ∀ m ∈ s.messages, ∀ symbol ∈ s.symbols,
    IsLegalFor symbol (s.params.get? "interval") m

variable {v : Venue} {s : Selection} {fs : List Frame} {f : Frame}

/-- The one frame of a batched selection stands for its envelope. -/
theorem Venue.exists_spells_of_batched {format : Batched} (h : v.format = .batched format)
    (hframes : v.frames s = .ok fs) (hf : f ∈ fs) :
    ∃ entries, List.Forall₂ Member.Spells f.members entries := by
  rw [Venue.frames, h] at hframes
  obtain ⟨topics, htopics, heq⟩ := bind_eq_ok_iff.mp hframes
  obtain rfl := Except.ok.inj heq
  obtain rfl := List.mem_singleton.mp hf
  exact ⟨_, Venue.frame_spells h s.subscribe (Venue.properItems_topics h htopics)⟩

/-- Every frame of a single selection is one of a message type and a symbol. -/
theorem Venue.exists_splicesFor {format : Single} (h : v.format = .single format)
    (hframes : v.frames s = .ok fs) (hf : f ∈ fs) :
    ∃ m ∈ s.messages, ∃ symbol ∈ s.symbols, f.SplicesFor symbol (s.params.get? "interval") m := by
  rw [Venue.frames, h] at hframes
  obtain ⟨m, hm, symbol, hsymbol, hresolve⟩ := exists_of_mem_forEachPair hframes hf
  exact ⟨m, hm, symbol, hsymbol, Venue.splicesFor_of_resolve h hresolve⟩

/-- An intact frame of a venue stands for something. -/
theorem Venue.exists_spells (hframes : v.frames s = .ok fs) (hf : f ∈ fs)
    (hintact : f.IsIntact) : ∃ entries, List.Forall₂ Member.Spells f.members entries := by
  cases h : v.format with
  | batched format => exact Venue.exists_spells_of_batched h hframes hf
  | single format =>
    obtain ⟨m, -, symbol, -, text, hsplices, -⟩ := Venue.exists_splicesFor h hframes hf
    exact hsplices.exists_spells (hsplices.isLegal hintact)

/-- **The frames of a selection are intact just when it is safe.** -/
theorem Venue.frames_isIntact_iff (hframes : v.frames s = .ok fs) :
    (∀ f ∈ fs, f.IsIntact) ↔ v.IsSafe s := by
  cases h : v.format with
  | batched format =>
    refine ⟨fun _ => ?_, fun _ f hf => ?_⟩
    · -- a batched format is no single one
      rintro ⟨single, hsingle⟩
      rw [h] at hsingle
      cases hsingle
    · obtain ⟨entries, hentries⟩ := Venue.exists_spells_of_batched h hframes hf
      exact Frame.isIntact_of_spells hentries
  | single format =>
    refine ⟨fun hintact _ m hm symbol hsymbol => ?_, fun hsafe f hf => ?_⟩
    · -- every pair has its frame, which sets the symbol between quotes
      have hpairs := hframes
      rw [Venue.frames, h] at hpairs
      obtain ⟨f, hf, hresolve⟩ := exists_mem_forEachPair hpairs hm hsymbol
      obtain ⟨text, hsplices, hlegal⟩ := Venue.splicesFor_of_resolve h hresolve
      exact hlegal.mp (hsplices.isIntact_iff.mp (hintact f hf))
    · obtain ⟨m, hm, symbol, hsymbol, text, hsplices, hlegal⟩ :=
        Venue.exists_splicesFor h hframes hf
      exact hsplices.isIntact_iff.mpr (hlegal.mpr (hsafe ⟨format, h⟩ m hm symbol hsymbol))

/-! ### Requests -/

/-- The frames of a request. -/
def Request.frames (r : Request) : Except Error (List Frame) :=
  if r.selection.isEmpty then .ok []
  else do
    let e ← Vocabulary.parse (α := Exchange) r.exchange
    match e.venue? with
    | some v => v.frames r.selection
    | none => throw (.noFormat e)

/-- All that the request lets a venue set between quotes is legal there. -/
def Request.IsSafe (r : Request) : Prop :=
  ∀ e v, Vocabulary.parse (α := Exchange) r.exchange = .ok e → e.venue? = some v →
    v.IsSafe r.selection

variable {r : Request}

/-- The commands of a request are its frames as they are sent. -/
theorem Request.commands_eq_map (r : Request) :
    r.commands = (List.map Frame.text) <$> r.frames := by
  unfold Request.commands Request.build Request.frames
  by_cases h : r.selection.isEmpty
  · simp only [h, if_true, fmap_ok, List.map_nil]
  · simp only [h, Bool.false_eq_true, if_false]
    -- both fail at the same step, and the frames are written out at the end
    cases Vocabulary.parse (α := Exchange) r.exchange with
    | error e => rfl
    | ok e =>
      simp only [ok_bind]
      cases e.venue? with
      | none => rfl
      | some v =>
        simp only [Venue.commands, pure_eq_ok, ok_bind]
        cases v.frames r.selection <;> rfl

/-- A request that succeeds has no frames, or those of its venue. -/
theorem Request.frames_eq_ok (h : r.frames = .ok fs) :
    (r.selection.isEmpty ∧ fs = []) ∨ ∃ e v, Vocabulary.parse (α := Exchange) r.exchange = .ok e ∧
      e.venue? = some v ∧ v.frames r.selection = .ok fs := by
  unfold Request.frames at h
  split at h
  · rename_i hempty
    exact .inl ⟨hempty, (Except.ok.inj h).symm⟩
  · obtain ⟨e, he, hframes⟩ := bind_eq_ok_iff.mp h
    cases hv : e.venue? with
    | none =>
      rw [hv] at hframes
      cases hframes
    | some v =>
      rw [hv] at hframes
      exact .inr ⟨e, v, he, hv, hframes⟩

/-- A request for nothing sets nothing between quotes. -/
theorem Request.isSafe_of_isEmpty (h : r.selection.isEmpty) : r.IsSafe := by
  rintro e v - - - m hm symbol hsymbol
  simp only [Selection.isEmpty, Bool.or_eq_true, List.isEmpty_iff] at h
  rcases h with h | h
  · rw [h] at hm
    cases hm
  · rw [h] at hsymbol
    cases hsymbol

/-- **The frames of a request are intact just when it is safe.** -/
theorem Request.frames_isIntact_iff (h : r.frames = .ok fs) :
    (∀ f ∈ fs, f.IsIntact) ↔ r.IsSafe := by
  rcases Request.frames_eq_ok h with ⟨hempty, rfl⟩ | ⟨e, v, he, hv, hframes⟩
  · -- nothing is asked for, so nothing is set between quotes
    exact ⟨fun _ => Request.isSafe_of_isEmpty hempty, fun _ f hf => by cases hf⟩
  · rw [Venue.frames_isIntact_iff hframes]
    constructor
    · intro hsafe e' v' he' hv'
      obtain rfl := Except.ok.inj (he.symm.trans he')
      obtain rfl := Option.some.inj (hv.symm.trans hv')
      exact hsafe
    · intro hsafe
      exact hsafe e v he hv

/-- An intact frame has no control characters. -/
theorem Request.printable_of_isIntact (h : r.frames = .ok fs) (hf : f ∈ fs)
    (hintact : f.IsIntact) : Printable f.text.toList := by
  rcases Request.frames_eq_ok h with ⟨-, rfl⟩ | ⟨e, v, -, -, hframes⟩
  · cases hf
  · obtain ⟨entries, hentries⟩ := Venue.exists_spells hframes hf hintact
    exact Frame.printable hentries

/-! ### Command lines -/

/-- The requests of a command line, where `load` loads plans.  An entry of a plan that fails its
    check makes none. -/
def Invocation.requests (inv : Invocation) (load : String → Except Plan.LoadError Plan) :
    List Request :=
  match inv.command with
  | .marketTypes _ => []
  | .wsCommands exchange messages symbols unsubscribe interval? =>
    [{ exchange
       selection := {
         messages, symbols
         subscribe := !unsubscribe
         params := Params.ofInterval interval? } }]
  | .plan path =>
    match load path with
    | .error _ => []
    | .ok p => (p.entries.filter fun entry => entry.validate.toBool).map Plan.Entry.request

variable {inv : Invocation} {load : String → Except Plan.LoadError Plan}

/-- The commands of the requests that succeed, in order. -/
def Invocation.commands (inv : Invocation) (load : String → Except Plan.LoadError Plan) :
    List String :=
  (inv.requests load).flatMap fun r => r.commands.toOption.getD []

/-- The frames of the requests that succeed, in order. -/
def Invocation.frames (inv : Invocation) (load : String → Except Plan.LoadError Plan) :
    List Frame :=
  (inv.requests load).flatMap fun r => r.frames.toOption.getD []

/-- The commands of a command line are the texts of its frames. -/
theorem Invocation.commands_eq_map (inv : Invocation)
    (load : String → Except Plan.LoadError Plan) :
    inv.commands load = (inv.frames load).map Frame.text := by
  rw [Invocation.commands, Invocation.frames, List.map_flatMap]
  apply List.flatMap_congr
  intro r _
  rw [Request.commands_eq_map]
  cases r.frames <;> rfl

/-- The frames of a command line are those of its requests that succeed. -/
theorem Invocation.mem_frames_iff :
    f ∈ inv.frames load ↔ ∃ r ∈ inv.requests load, ∃ fs, r.frames = .ok fs ∧ f ∈ fs := by
  rw [Invocation.frames, List.mem_flatMap]
  refine exists_congr fun r => and_congr_right fun _ => ?_
  -- a request that fails adds no frames
  cases r.frames with
  | error e => simp [Except.toOption]
  | ok fs => simp [Except.toOption]

/-! ### The output -/

/-- An entry prints the commands of its request, if it passes its check. -/
theorem Plan.Entry.outputs_report (entry : Plan.Entry) (index : Nat) :
    (entry.report index).outputs =
      if entry.validate.toBool then entry.request.commands.toOption.getD [] else [] := by
  unfold Plan.Entry.report Plan.Entry.build Request.commands
  cases entry.validate with
  | error e => rfl
  | ok u => cases entry.request.build <;> simp [Except.toBool, Except.toOption, Built.report]

/-- What a run of entries prints comes behind what was printed before, whatever their numbers are. -/
theorem Plan.Progress.outputs_foldl (entries : List Plan.Entry) (s : Plan.Progress) :
    (entries.foldl Plan.Progress.take s).report.outputs = s.report.outputs ++
      ((entries.filter fun entry => entry.validate.toBool).map Plan.Entry.request).flatMap
        fun r => r.commands.toOption.getD [] := by
  induction entries generalizing s with
  | nil => exact (List.append_nil _).symm
  | cons entry entries ih =>
    have htake : (s.take entry).report.outputs = s.report.outputs ++
        (entry.report s.taken).outputs := rfl
    rw [List.foldl_cons, ih, htake, Plan.Entry.outputs_report, List.filter_cons,
      List.append_assoc]
    split <;> simp

/-- A plan prints the commands of its entries in order. -/
theorem Plan.outputs_report (p : Plan) (path : String) :
    (p.report path).outputs =
      ((p.entries.filter fun entry => entry.validate.toBool).map Plan.Entry.request).flatMap
        fun r => r.commands.toOption.getD [] := by
  -- the events before and behind the entries print nothing
  rw [Plan.report, Report.outputs_append, Plan.Progress.outputs_foldl, List.nil_append,
    List.append_nil]

/-- **The output is the commands, one line each**, whatever the log filter is. -/
theorem Invocation.stdout_runWith (h : ∀ exchange, inv.command ≠ .marketTypes exchange)
    (choice : Log.Filter.Choice) :
    (inv.runWith load (.ok choice)).stdout = unlines (inv.commands load) := by
  unfold Invocation.runWith Invocation.commands Invocation.requests
  cases hcommand : inv.command with
  | marketTypes exchange => exact absurd hcommand (h exchange)
  | wsCommands exchange messages symbols unsubscribe interval? =>
    simp only [outcomeWith_ok, Logging.outcome, Request.report, Request.commands,
      List.flatMap_singleton]
    cases Request.build _ <;> rfl
  | plan path =>
    dsimp only
    cases load path with
    | error e => rfl
    | ok p => exact congrArg unlines (Plan.outputs_report p path)

/-- A run whose log filter is read is the one with that filter. -/
theorem Invocation.run_eq_runWith {files : Files} {preferred? : Option String}
    {choice : Log.Filter.Choice} (h : Log.Filter.choose preferred? inv.logLevel = .ok choice) :
    inv.run files preferred? = inv.runWith (Plan.load files) (.ok choice) := by
  rw [Invocation.run, h]

/-- **The output of a command line can be taken apart just when it is safe.**  The output is the
    commands that were built, one line each.  Its lines are these commands, and each command is one
    JSON object with the members that were meant, just when no request that succeeds lets Bitfinex,
    FTX or Huobi set something between quotes that is no string literal there. -/
theorem Invocation.lines_iff (inv : Invocation) (files : Files) (choice : Log.Filter.Choice)
    (h : ∀ exchange, inv.command ≠ .marketTypes exchange) :
    inv.commands (Plan.load files) = (inv.frames (Plan.load files)).map Frame.text ∧
    (inv.runWith (Plan.load files) (.ok choice)).stdout =
      unlines (inv.commands (Plan.load files)) ∧
    ((Text.lines (inv.runWith (Plan.load files) (.ok choice)).stdout =
          inv.commands (Plan.load files) ++ [""] ∧
        ∀ f ∈ inv.frames (Plan.load files), f.IsIntact) ↔
      ∀ r ∈ inv.requests (Plan.load files), ∀ fs, r.frames = .ok fs → r.IsSafe) := by
  have hcommands := inv.commands_eq_map (Plan.load files)
  have hstdout : (inv.runWith (Plan.load files) (.ok choice)).stdout =
      unlines (inv.commands (Plan.load files)) :=
    Invocation.stdout_runWith h choice
  refine ⟨hcommands, hstdout, ?_⟩
  rw [hstdout]
  constructor
  · -- the lines are not needed: a command that is broken over two lines is not intact
    rintro ⟨-, hintact⟩ r hr fs hfs
    refine (Request.frames_isIntact_iff hfs).mp ?_
    intro f hf
    exact hintact f (Invocation.mem_frames_iff.mpr ⟨r, hr, fs, hfs, hf⟩)
  · intro hsafe
    have hintact : ∀ f ∈ inv.frames (Plan.load files), f.IsIntact ∧ '\n' ∉ f.text.toList := by
      intro f hf
      obtain ⟨r, hr, fs, hfs, hmem⟩ := Invocation.mem_frames_iff.mp hf
      have hf' := (Request.frames_isIntact_iff hfs).mpr (hsafe r hr fs hfs) f hmem
      exact ⟨hf', (Request.printable_of_isIntact hfs hmem hf').not_mem_newline⟩
    refine ⟨?_, fun f hf => (hintact f hf).1⟩
    apply Text.lines_unlines
    rw [hcommands]
    intro line hline
    obtain ⟨f, hf, rfl⟩ := List.mem_map.mp hline
    exact (hintact f hf).2

/-- Bitfinex takes a candlestick topic of two plain texts on a line of its own. -/
theorem Invocation.lines_iff_bitfinex :
    ∃ inv : Invocation,
      Invocation.ofArguments ["ws-commands", "--exchange=bitfinex", "--msg-type=candlestick",
        "--symbol=tBTCUSD", "--interval=1m"] = .ok inv ∧
      Text.lines (inv.run { directory := "/" } none).stdout =
        ["\x7b\"event\":\"subscribe\", \"channel\":\"candles\", \"key\":\"trade:1m:tBTCUSD\"\x7d", ""] ∧
      ∀ f ∈ inv.frames (Plan.load { directory := "/" }), f.IsIntact := by
  let inv : Invocation := {
    command := .wsCommands "bitfinex" [.candlestick] ["tBTCUSD"] false (some "1m") }
  have hrun : inv.run { directory := "/" } none =
      inv.runWith (Plan.load { directory := "/" }) (.ok _) :=
    Invocation.run_eq_runWith Log.Filter.choose_info
  obtain ⟨-, -, hlines⟩ := Invocation.lines_iff inv { directory := "/" } _ (by simp [inv])
  have hsafe : ∀ r ∈ inv.requests (Plan.load { directory := "/" }), ∀ fs, r.frames = .ok fs → r.IsSafe := by
    intro r hr fs _ e v _ _ _ m _ symbol hsymbol
    obtain rfl := List.mem_singleton.mp hr
    obtain rfl := List.mem_singleton.mp hsymbol
    refine ⟨IsPlain.isLegal (by decide), fun _ i hi => ?_⟩
    obtain rfl : "1m" = i := Option.some.inj hi
    exact IsPlain.isLegal (by decide)
  obtain ⟨hlines, hintact⟩ := hlines.mpr hsafe
  refine ⟨inv, by decide +kernel, ?_, hintact⟩
  have hcommands : inv.commands (Plan.load { directory := "/" }) =
      ["\x7b\"event\":\"subscribe\", \"channel\":\"candles\", \"key\":\"trade:1m:tBTCUSD\"\x7d"] := by
    decide +kernel
  rw [hrun, hlines, hcommands]
  rfl

/-- A symbol with a line feed breaks the command of FTX over two lines. -/
theorem Invocation.not_lines_ftx :
    ¬ ∀ (arguments : List String) (inv : Invocation) (files : Files) (choice : Log.Filter.Choice),
      Invocation.ofArguments arguments = .ok inv →
      (∀ exchange, inv.command ≠ .marketTypes exchange) →
      Text.lines (inv.runWith (Plan.load files) (.ok choice)).stdout =
          inv.commands (Plan.load files) ++ [""] ∧
        ∀ f ∈ inv.frames (Plan.load files), f.IsIntact := by
  intro hall
  let inv : Invocation := { command := .wsCommands "ftx" [.trade] ["a\nb"] false none }
  have harguments : Invocation.ofArguments
      ["ws-commands", "--exchange=ftx", "--msg-type=trade", "--symbol=a\nb"] = .ok inv := by
    decide +kernel
  obtain ⟨hlines, -⟩ := hall _ inv { directory := "/" } { filter := Log.Filter.errors } harguments
    (by simp [inv])
  have hcommands : inv.commands (Plan.load { directory := "/" }) =
      ["\x7b\"op\":\"subscribe\",\"channel\":\"trades\",\"market\":\"a\nb\"\x7d"] := by
    decide +kernel
  rw [Invocation.stdout_runWith (by simp [inv]), hcommands] at hlines
  -- there are three lines where two were meant
  have hlength := congrArg List.length hlines
  simp [unlines, Text.lines, Text.splitOn, Text.splitChars] at hlength

end MarketFeed
