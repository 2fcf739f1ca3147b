import MarketFeed.Proofs.Log.Subscriber
import MarketFeed.Proofs.Output

namespace MarketFeed

/-!
# Running a plan — entry by entry

A plan is carried out entry by entry.  An entry that fails is logged and counted, and the run goes
on with the next one.

* `Invocation.Loads`, `Plan.RunsTo` — a command line that runs a plan, and what comes of it.
* `Logging.outcome_ok`, `Logging.outcome_error` — what can be seen of a command.
* `Plan.Entry.note`, `Plan.Entry.report_spec` — the event that says what came of an entry.
* `Plan.Progress.Accounts` — what was printed, logged and counted, in terms of the entries taken.
* `Plan.Progress.Accounts.take`, `Plan.Progress.Accounts.run` — each entry keeps the accounts, and so
  does a whole run.
* `Plan.ownEvents_eq` — what the program itself says in a run.
* `Invocation.run_plan` — what a run of a plan prints and logs.
-/

open Log

/-! ### Loading -/

/-- The command line runs the plan, where `load` loads plans. -/
def Invocation.Loads (inv : Invocation) (load : String → Except Plan.LoadError Plan) (path : String)
    (p : Plan) : Prop :=
  inv.command = .plan path ∧ load path = .ok p

/-- Some command line that runs the plan ends in the outcome. -/
def Plan.RunsTo (p : Plan) (o : Outcome) : Prop :=
  ∃ (inv : Invocation) (load : String → Except Plan.LoadError Plan) (path : String)
    (choice : Filter.Choice), inv.Loads load path p ∧ inv.runWith load (.ok choice) = o

variable {inv : Invocation} {load : String → Except Plan.LoadError Plan} {path : String} {p : Plan}

/-- The run of a plan is the outcome of its report. -/
theorem Invocation.Loads.runWith_eq (h : inv.Loads load path p) (choice : Filter.Choice) :
    inv.runWith load (.ok choice) =
      Logging.outcome {
        choice, directory? := p.logDirectory inv.logDirectory?, name := p.moduleName }
        (.ok (p.report path)) := by
  unfold Invocation.runWith
  rw [h.1]
  dsimp only
  rw [h.2]
  rfl

/-! ### Outcomes -/

/-- What can be seen of a command that is carried out: what it prints, and what the layers of the log
    make of the events that pass. -/
theorem Logging.outcome_ok (l : Logging) (r : Report) :
    l.outcome (.ok r) = {
      ending := .done
      stdout := unlines r.outputs
      complaints := l.choice.complaints
      events := r.events.filter l.choice.filter.enabled
      console := (r.events.filter l.choice.filter.enabled).map Layer.console.entry
      logFile? := l.directory?.map fun directory => {
        directory, name := l.name
        entries := (r.events.filter l.choice.filter.enabled).map Layer.file.entry } } := by
  unfold Logging.outcome
  simp only [Subscriber.run_eq, Subscriber.extend, Logging.subscriber, List.nil_append,
    Option.map_map]
  rfl

/-- What can be seen of a command that fails: nothing is printed and nothing is logged. -/
theorem Logging.outcome_error (l : Logging) (e : Error) :
    l.outcome (.error e) = {
      ending := .failed (.error e)
      complaints := l.choice.complaints
      logFile? := l.directory?.map fun directory => { directory, name := l.name } } :=
  rfl

/-! ### Events -/

/-- The event comes from the program itself, not from a part of it. -/
def Log.Event.isOwn (e : Event) : Bool := e.target == "cmt"

/-- What is logged while commands are built comes from where they are built. -/
theorem Request.target_of_build {r : Request} {b : Built} (h : r.build = .ok b) :
    ∀ e ∈ b.events, e.target = "cmt_ws::registry" := by
  unfold Request.build at h
  split at h
  · obtain rfl := Except.ok.inj h
    exact fun e he => by cases he
  · obtain ⟨x, -, h⟩ := bind_eq_ok_iff.mp h
    cases hv : x.venue? with
    | none =>
      rw [hv] at h
      cases h
    | some v =>
      simp only [hv, pure_eq_ok, ok_bind] at h
      obtain ⟨commands, -, hbuilt⟩ := bind_eq_ok_iff.mp h
      obtain rfl := Except.ok.inj hbuilt
      intro e he
      obtain rfl := List.mem_singleton.mp he
      rfl

/-- So it does not come from the program itself. -/
theorem Request.not_isOwn_of_build {r : Request} {b : Built} (h : r.build = .ok b) :
    ∀ e ∈ b.events, e.isOwn = false := by
  intro e he
  rw [Event.isOwn, Request.target_of_build h e he]
  decide

/-! ### Entries -/

/-- What an entry prints: its commands, or nothing if it fails. -/
def Plan.Entry.outputs (entry : Plan.Entry) : List String := entry.commands.toOption.getD []

/-- The entry fails. -/
def Plan.Entry.fails (entry : Plan.Entry) : Bool := entry.commands.toOption.isNone

/-- The event that says what came of an entry. -/
def Plan.Entry.note (entry : Plan.Entry) (index : Nat) : Event :=
  match entry.commands with
  | .ok commands => {
      level := .info
      target := "cmt"
      message := "subscriptions[" ++ toString index ++ "]: "
        ++ (entry.exchange ++ " " ++ entry.market.code) ++ " -> "
        ++ toString commands.length ++ " command(s)" }
  | .error e => {
      level := .error
      target := "cmt"
      message := "subscriptions[" ++ toString index ++ "]: " ++ "skipped "
        ++ (entry.exchange ++ " " ++ entry.market.code) ++ ": " ++ e.message }

/-- An entry whose commands can be built is reported with them, and with the events of building
    them in front of its own. -/
theorem Plan.Entry.report_eq_append {entry : Plan.Entry} {b : Built} (h : entry.build = .ok b)
    (index : Nat) : entry.report index = b.report ++ { events := [entry.note index] } := by
  have hcommands : entry.commands = .ok b.commands := by rw [Plan.Entry.commands, h, fmap_ok]
  unfold Plan.Entry.report Plan.Entry.note
  simp only [h, hcommands]
  rfl

/-- An entry that fails is reported by its event alone. -/
theorem Plan.Entry.report_eq_singleton {entry : Plan.Entry} {e : Error} (h : entry.build = .error e)
    (index : Nat) : entry.report index = { events := [entry.note index] } := by
  have hcommands : entry.commands = .error e := by rw [Plan.Entry.commands, h, fmap_error]
  unfold Plan.Entry.report Plan.Entry.note
  simp only [h, hcommands]
  rfl

/-- An entry prints its commands, and the program says once what came of it. -/
theorem Plan.Entry.report_spec (entry : Plan.Entry) (index : Nat) :
    (entry.report index).outputs = entry.outputs ∧
    (entry.report index).events.filter Event.isOwn = [entry.note index] := by
  have hnote : (entry.note index).isOwn = true := by
    unfold Plan.Entry.note
    split <;> rfl
  cases h : entry.build with
  | error e =>
    rw [Plan.Entry.report_eq_singleton h]
    exact ⟨by simp [Plan.Entry.outputs, Plan.Entry.commands, h, Except.toOption], by simp [hnote]⟩
  | ok b =>
    obtain ⟨-, -, hbuild⟩ := bind_eq_ok_iff.mp h
    -- what building the commands logs is not from the program itself
    have hevents : b.report.events.filter Event.isOwn = [] := by
      rw [List.filter_eq_nil_iff]
      intro e he
      simp [Request.not_isOwn_of_build hbuild e he]
    rw [Plan.Entry.report_eq_append h]
    refine ⟨?_, by simp [hevents, hnote]⟩
    simp [Plan.Entry.outputs, Plan.Entry.commands, h, Except.toOption, Built.report]

/-- The event of an entry is an error just when the entry fails. -/
theorem Plan.Entry.note_level_eq_error_iff (entry : Plan.Entry) (index : Nat) :
    (entry.note index).level = .error ↔ entry.fails := by
  unfold Plan.Entry.note Plan.Entry.fails
  cases entry.commands with
  | ok commands => simp [Except.toOption]
  | error e => simp [Except.toOption]

/-! ### One entry after another -/

/-- An entry is counted as skipped just when it fails. -/
theorem Plan.Progress.skipped_take (s : Plan.Progress) (entry : Plan.Entry) :
    (s.take entry).skipped = s.skipped + if entry.fails then 1 else 0 := by
  rw [Plan.Progress.take, Plan.Entry.fails, Plan.Entry.commands]
  cases entry.build <;> rfl

/-- What was printed, logged and counted is what the entries taken so far account for, after a first
    event. -/
structure Plan.Progress.Accounts (s : Plan.Progress) (first : Event) (done : List Plan.Entry) :
    Prop where
  taken : s.taken = done.length
  outputs : s.report.outputs = done.flatMap Plan.Entry.outputs
  events : s.report.events.filter Event.isOwn =
    first :: done.mapIdx fun index entry => entry.note index
  skipped : s.skipped = done.countP Plan.Entry.fails
  errors : s.skipped = (s.report.events.filter Event.isOwn).countP (·.level = .error)

/-- The accounts of a run that has taken no entry yet. -/
theorem Plan.Progress.accounts_nil {first : Event} (hown : first.isOwn = true)
    (hlevel : first.level ≠ .error) :
    ({ report := { events := [first] } } : Plan.Progress).Accounts first [] :=
  ⟨rfl, rfl, by simp [hown], rfl, by simp [hown, hlevel]⟩

/-- **One more entry keeps the accounts.** -/
theorem Plan.Progress.Accounts.take {s : Plan.Progress} {first : Event} {done : List Plan.Entry}
    (h : s.Accounts first done) (entry : Plan.Entry) :
    (s.take entry).Accounts first (done ++ [entry]) := by
  obtain ⟨houtputs, hevents⟩ := entry.report_spec s.taken
  have hown : (s.take entry).report.events.filter Event.isOwn
      = s.report.events.filter Event.isOwn ++ [entry.note s.taken] := by
    rw [Plan.Progress.take, Report.events_append, List.filter_append, hevents]
  refine ⟨?_, ?_, ?_, ?_, ?_⟩
  · rw [Plan.Progress.take, h.taken, List.length_append, List.length_singleton]
  · rw [Plan.Progress.take, Report.outputs_append, h.outputs, houtputs, List.flatMap_append,
      List.flatMap_singleton]
  · -- the new event bears the number of entries taken before
    rw [hown, h.events, h.taken, List.mapIdx_concat, List.cons_append]
  · rw [Plan.Progress.skipped_take, List.countP_append, List.countP_singleton, h.skipped]
  · have hlevel := entry.note_level_eq_error_iff s.taken
    rw [hown, List.countP_append, List.countP_singleton, ← h.errors, Plan.Progress.skipped_take]
    simp only [decide_eq_true_eq, hlevel]

/-- **A whole run keeps the accounts.** -/
theorem Plan.Progress.Accounts.run {s : Plan.Progress} {first : Event} {done : List Plan.Entry}
    (h : s.Accounts first done) (entries : List Plan.Entry) :
    (entries.foldl Plan.Progress.take s).Accounts first (done ++ entries) := by
  induction entries generalizing s done with
  | nil => rwa [List.append_nil]
  | cons entry entries ih =>
    have hrest := ih (h.take entry)
    rwa [List.append_assoc, List.singleton_append] at hrest

/-- The accounts of a plan when all of its entries are taken. -/
theorem Plan.accounts (p : Plan) (path : String) :
    (p.entries.foldl Plan.Progress.take { report := { events := [p.loadedEvent path] } }).Accounts
      (p.loadedEvent path) p.entries :=
  (Plan.Progress.accounts_nil rfl fun h => by cases h).run p.entries

/-! ### Reports of plans -/

/-- The number of entries that fail. -/
def Plan.failures (p : Plan) : Nat := p.entries.countP Plan.Entry.fails

/-- A plan prints what its entries print. -/
theorem Plan.outputs_report_eq_flatMap (p : Plan) (path : String) :
    (p.report path).outputs = p.entries.flatMap Plan.Entry.outputs := by
  rw [Plan.report, Report.outputs_append, (p.accounts path).outputs, List.append_nil]

/-- What the program itself says in a run of the plan, before the log is filtered. -/
def Plan.ownEvents (p : Plan) (path : String) : List Event :=
  (p.report path).events.filter Event.isOwn

/-- The program says that the plan was loaded, what came of each entry, and how many failed. -/
theorem Plan.ownEvents_eq (p : Plan) (path : String) :
    p.ownEvents path = p.loadedEvent path ::
      (p.entries.mapIdx (fun index entry => entry.note index)
        ++ skippedEvents p.failures p.entries.length) := by
  have hown : ∀ skipped total,
      (skippedEvents skipped total).filter Event.isOwn = skippedEvents skipped total := by
    intro skipped total
    unfold skippedEvents
    split <;> rfl
  -- what was counted in the run is the number of entries that fail
  have hskipped := (p.accounts path).skipped
  rw [Plan.ownEvents, Plan.report, Report.events_append, List.filter_append,
    (p.accounts path).events, hown, hskipped]
  rfl

/-- The entries that fail are as many as the errors the program logs. -/
theorem Plan.failures_eq_countP (p : Plan) (path : String) :
    p.failures = (p.ownEvents path).countP (·.level = .error) := by
  have hrun := p.accounts path
  -- the warning at the end is no error
  have hwarning : ∀ skipped total,
      (skippedEvents skipped total).countP (·.level = .error) = 0 := by
    intro skipped total
    unfold skippedEvents
    split <;> rfl
  calc p.failures
      = (p.entries.foldl Plan.Progress.take
          { report := { events := [p.loadedEvent path] } }).skipped := hrun.skipped.symm
    _ = (p.loadedEvent path :: p.entries.mapIdx fun index entry => entry.note index).countP
          (·.level = .error) := by
      rw [hrun.errors, hrun.events]
    _ = (p.ownEvents path).countP (·.level = .error) := by
      rw [Plan.ownEvents_eq, ← List.cons_append, List.countP_append, hwarning, Nat.add_zero]

/-! ### Runs of plans -/

/-- Lines are the texts that end in a line feed each, one after another. -/
theorem unlines_eq_join (outputs : List String) :
    unlines outputs = String.join (outputs.map (· ++ "\n")) := by
  induction outputs with
  | nil => rfl
  | cons line rest ih =>
    rw [List.map_cons, String.join_cons, ← ih]
    rfl

/-- The lines of two lists are printed one after another. -/
theorem unlines_append (xs ys : List String) : unlines (xs ++ ys) = unlines xs ++ unlines ys := by
  rw [unlines_eq_join, unlines_eq_join, unlines_eq_join, List.map_append, String.join_append]

/-- A run of a plan prints what its entries print, line by line. -/
theorem Plan.RunsTo.stdout_eq {o : Outcome} (h : p.RunsTo o) :
    o.stdout = unlines (p.entries.flatMap Plan.Entry.outputs) := by
  obtain ⟨inv, load, path, choice, hloads, rfl⟩ := h
  rw [hloads.runWith_eq, Logging.outcome_ok, Plan.outputs_report_eq_flatMap p path]

/-- What the entries print are the commands of those that have them. -/
theorem Plan.flatMap_outputs_eq (entries : List Plan.Entry) :
    entries.flatMap Plan.Entry.outputs =
      (entries.filterMap fun entry => entry.commands.toOption).flatten := by
  induction entries with
  | nil => rfl
  | cons entry entries ih =>
    rw [List.flatMap_cons, ih, List.filterMap_cons, Plan.Entry.outputs]
    cases entry.commands.toOption <;> rfl

/-- **What a run of a plan prints and logs.**  It succeeds, whatever its entries do.  It prints the
    commands of the entries that have them, in order and one line each; plans one after another
    print their outputs one after another, and an entry that fails might as well not be there.  The
    log is what the filter lets through of the run's events.  Among them those of the program itself
    are one for the plan, one for each entry in order, and one for the number of entries that
    failed, if any did. -/
theorem Invocation.run_plan (h : inv.Loads load path p) (choice : Filter.Choice) :
    (inv.runWith load (.ok choice)).exitCode = 0 ∧
    (inv.runWith load (.ok choice)).ending = .done ∧
    (inv.runWith load (.ok choice)).stdout = String.join
      ((p.entries.filterMap fun entry => entry.commands.toOption).flatten.map (· ++ "\n")) ∧
    (∀ (p₁ p₂ : Plan) (o₁ o₂ : Outcome), p₁.RunsTo o₁ → p₂.RunsTo o₂ →
      p.entries = p₁.entries ++ p₂.entries →
      (inv.runWith load (.ok choice)).stdout = o₁.stdout ++ o₂.stdout) ∧
    (∀ (before after : List Plan.Entry) (entry : Plan.Entry) (e : Error) (p' : Plan) (o' : Outcome),
      p.entries = before ++ entry :: after → entry.commands = .error e →
      p'.entries = before ++ after → p'.RunsTo o' →
      (inv.runWith load (.ok choice)).stdout = o'.stdout) ∧
    (inv.runWith load (.ok choice)).events =
      (p.report path).events.filter choice.filter.enabled ∧
    ∃ notes : List Event, notes.length = p.entries.length ∧
      (∀ (index : Nat) (entry : Plan.Entry), p.entries[index]? = some entry →
        (∀ commands, entry.commands = .ok commands →
          notes[index]? = some {
            level := .info
            target := "cmt"
            message := "subscriptions[" ++ toString index ++ "]: "
              ++ (entry.exchange ++ " " ++ entry.market.code) ++ " -> "
              ++ toString commands.length ++ " command(s)" }) ∧
        ∀ e, entry.commands = .error e →
          notes[index]? = some {
            level := .error
            target := "cmt"
            message := "subscriptions[" ++ toString index ++ "]: " ++ "skipped "
              ++ (entry.exchange ++ " " ++ entry.market.code) ++ ": " ++ e.message }) ∧
      ∀ k, k = (p.ownEvents path).countP (·.level = .error) →
        p.ownEvents path =
          { level := .info
            target := "cmt"
            message := "plan '" ++ p.moduleName ++ "' loaded from " ++ path ++ ": "
              ++ toString p.entries.length ++ " subscription(s)" } ::
          (notes ++ if k = 0 then [] else
            [{ level := .warn
               target := "cmt"
               message := toString k ++ " of " ++ toString p.entries.length
                ++ " subscription(s) skipped" }]) := by
  have hrun : p.RunsTo (inv.runWith load (.ok choice)) := ⟨inv, load, path, choice, h, rfl⟩
  refine ⟨?_, ?_, ?_, ?_, ?_, ?_, p.entries.mapIdx fun index entry => entry.note index,
    List.length_mapIdx, ?_, ?_⟩
  · rw [h.runWith_eq]
    rfl
  · rw [h.runWith_eq]
    rfl
  · rw [hrun.stdout_eq, unlines_eq_join, Plan.flatMap_outputs_eq]
  · intro p₁ p₂ o₁ o₂ h₁ h₂ hentries
    rw [hrun.stdout_eq, h₁.stdout_eq, h₂.stdout_eq, hentries, List.flatMap_append, unlines_append]
  · intro before after entry e p' o' hentries he hentries' h'
    have hnone : entry.outputs = [] := by
      rw [Plan.Entry.outputs, he]
      rfl
    rw [hrun.stdout_eq, h'.stdout_eq, hentries, hentries', List.flatMap_append, List.flatMap_append,
      List.flatMap_cons, hnone, List.nil_append]
  · rw [h.runWith_eq, Logging.outcome_ok]
  · intro index entry hentry
    have hnote : (p.entries.mapIdx fun index entry => entry.note index)[index]?
        = some (entry.note index) := by
      rw [List.getElem?_mapIdx, hentry, Option.map_some]
    refine ⟨fun commands hcommands => ?_, fun e he => ?_⟩
    · rw [hnote]
      unfold Plan.Entry.note
      rw [hcommands]
    · rw [hnote]
      unfold Plan.Entry.note
      rw [he]
  · rintro k rfl
    rw [← Plan.failures_eq_countP, Plan.ownEvents_eq, skippedEvents]
    -- the warning is there just when the number is positive
    by_cases hzero : p.failures = 0
    · rw [if_pos hzero, if_neg (by omega)]
      rfl
    · rw [if_neg hzero, if_pos (by omega)]
      rfl

/-- An exchange without a format costs a plan one entry. -/
theorem Invocation.run_plan_kraken :
    ∃ (inv : Invocation) (files : Files) (p : Plan),
      Invocation.ofArguments ["plan", "p"] = .ok inv ∧ Plan.load files "p" = .ok p ∧
      (inv.run files none).exitCode = 0 ∧
      (inv.run files none).stdout =
        "\x7b\"op\":\"subscribe\",\"args\":[\"swap/trade:BTC-USDT-SWAP\"]\x7d\n" ∧
      ∃ notes : List Event, notes.length = 2 ∧
        notes[0]? = some {
          level := .error
          target := "cmt"
          message := "subscriptions[0]: skipped kraken spot: no websocket command builder for exchange: "
            ++ "kraken" } ∧
        p.ownEvents "p" =
          { level := .info
            target := "cmt"
            message := "plan 'cmt' loaded from p: 2 subscription(s)" } ::
          (notes ++ [{
            level := .warn
            target := "cmt"
            message := "1 of 2 subscription(s) skipped" }]) := by
  let inv : Invocation := { command := .plan "p" }
  let files : Files := {
    directory := "/"
    contents := [("p", ("\x7b\"subscriptions\":[[\"kraken\",\"spot\",[\"trade\"],[\"XBT/USD\"]],"
      ++ "[\"okex\",\"linear_swap\",[\"trade\"],[\"BTC-USDT-SWAP\"]]]\x7d").toUTF8)] }
  let kraken : Plan.Entry := {
    exchange := "kraken", market := .spot
    selection := { messages := [.trade], symbols := ["XBT/USD"], params := .empty } }
  let okex : Plan.Entry := {
    exchange := "okex", market := .linearSwap
    selection := { messages := [.trade], symbols := ["BTC-USDT-SWAP"], params := .empty } }
  let p : Plan := { entries := [kraken, okex] }
  have hload : Plan.load files "p" = .ok p := by decide +kernel
  have hloads : inv.Loads (Plan.load files) "p" p := ⟨rfl, hload⟩
  have hkraken : kraken.commands = .error (.noFormat .kraken) := by decide +kernel
  have hrun : inv.run files none = inv.runWith (Plan.load files) (.ok _) :=
    Invocation.run_eq_runWith Filter.choose_info
  obtain ⟨hexit, -, hstdout, -, -, -, notes, hlength, hnotes, hown⟩ :=
    Invocation.run_plan hloads { filter := { directives := [{ verbosity := .upTo .info }] } }
  rw [← hrun] at hexit hstdout
  refine ⟨inv, files, p, by decide +kernel, hload, hexit, hstdout.trans (by decide +kernel), notes,
    hlength, ?_, ?_⟩
  · rw [(hnotes 0 kraken rfl).2 _ hkraken]
    decide +kernel
  · exact (hown 1 (by decide +kernel)).trans
      (congrArg₂ (fun first last => first :: (notes ++ last)) (by decide +kernel) (by decide +kernel))

end MarketFeed
