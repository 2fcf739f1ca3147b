import MarketFeed.Proofs.Plan.Run
import MarketFeed.Proofs.Plan.Skipped

namespace MarketFeed

/-!
# Plans and flags agree

What to subscribe to is said in an entry of a plan, or by the flags of a command line.

* `Command.AsksFor` — the flags say what an entry says.
* `Plan.Entry.commands_ofFlags`, `Plan.Entry.commands_eq_request` — the commands are the same, and so
  is the error if there is one.
* `Plan.Entry.FlagsRunTo` — a run with such flags.
* `Plan.run_eq_flags` — a plan prints what such runs print one after another, and reports those of
  them that fail.
-/

open Log

/-! ### Entries and flags -/

/-- The flags ask for what the entry asks for.  That is something at all, and if the exchange is
    known, it lists the market of the entry. -/
structure Command.AsksFor (c : Command) (entry : Plan.Entry) : Prop where
  command : c = .wsCommands entry.exchange entry.selection.messages entry.selection.symbols
    (!entry.selection.subscribe) (entry.selection.params.get? "interval")
  messages : entry.selection.messages ≠ []
  symbols : entry.selection.symbols ≠ []
  market : ∀ e : Exchange, Vocabulary.parse? entry.exchange = some e → entry.market ∈ e.marketTypes

/-- An interval that is given is the interval parameter. -/
theorem Params.get?_ofInterval (interval? : Option String) :
    (Params.ofInterval interval?).get? "interval" = interval? := by
  cases interval? with
  | none => rfl
  | some i => exact Params.get?_insert_self .empty "interval" i

/-- The request that some flags make. -/
def Request.ofFlags (exchange : String) (messages : List MessageType) (symbols : List String)
    (unsubscribe : Bool) (interval? : Option String) : Request where
  exchange := exchange
  selection := {
    messages, symbols
    subscribe := !unsubscribe
    params := Params.ofInterval interval? }

/-- The flags of an entry make its request, up to parameters that nothing reads. -/
theorem Plan.Entry.commands_ofFlags (entry : Plan.Entry) :
    (Request.ofFlags entry.exchange entry.selection.messages entry.selection.symbols
      (!entry.selection.subscribe) (entry.selection.params.get? "interval")).commands
      = entry.request.commands := by
  rw [Request.ofFlags, Bool.not_not]
  exact Request.commands_congr_params (r := entry.request) (Params.get?_ofInterval _)

/-- An entry for something fails its check only where its request fails, and with the same error, if
    the exchange lists the market. -/
theorem Plan.Entry.commands_eq_request {entry : Plan.Entry}
    (hmessages : entry.selection.messages ≠ []) (hsymbols : entry.selection.symbols ≠ [])
    (hmarket : ∀ e : Exchange, Vocabulary.parse? entry.exchange = some e →
      entry.market ∈ e.marketTypes) :
    entry.commands = entry.request.commands := by
  cases he : Vocabulary.parse? (α := Exchange) entry.exchange with
  | none =>
    -- both front ends look the exchange up, so both fail here
    have hne : ¬ entry.request.selection.isEmpty := by
      simp [Selection.isEmpty, Plan.Entry.request, hmessages, hsymbols]
    rw [Plan.Entry.commands_of_invalid (.unknown he)]
    refine (Request.commands_eq_error hne ?_).symm
    simp only [Request.refusal?, Plan.Entry.request, he]
  | some e => exact Plan.Entry.commands_of_isValid ⟨e, he, hmarket e he⟩

/-! ### Runs with flags -/

/-- Some command line whose flags ask for the entry ends in the outcome. -/
def Plan.Entry.FlagsRunTo (entry : Plan.Entry) (o : Outcome) : Prop :=
  ∃ (inv : Invocation) (load : String → Except Plan.LoadError Plan) (choice : Filter.Choice),
    inv.command.AsksFor entry ∧ inv.runWith load (.ok choice) = o

/-- The outcome of a request prints its commands, and fails when there are none. -/
theorem Logging.outcome_report (l : Logging) (r : Request) :
    (l.outcome r.report).stdout = unlines (r.commands.toOption.getD []) ∧
    ((l.outcome r.report).exitCode ≠ 0 ↔ r.commands.toOption.isNone) := by
  unfold Request.report Request.commands
  cases r.build with
  | ok b =>
    rw [fmap_ok, Logging.outcome_ok]
    simp [Except.toOption, Built.report, Outcome.exitCode, Ending.exitCode]
  | error e =>
    rw [fmap_error, Logging.outcome_error]
    simp [Except.toOption, unlines, Outcome.exitCode, Ending.exitCode]

/-- A run with flags prints the commands of its entry, and fails when the entry does. -/
theorem Plan.Entry.FlagsRunTo.spec {entry : Plan.Entry} {o : Outcome} (h : entry.FlagsRunTo o) :
    o.stdout = unlines entry.outputs ∧ (o.exitCode ≠ 0 ↔ entry.fails) := by
  obtain ⟨inv, load, choice, hasks, rfl⟩ := h
  have hcommands : entry.commands = (Request.ofFlags entry.exchange entry.selection.messages
      entry.selection.symbols (!entry.selection.subscribe)
      (entry.selection.params.get? "interval")).commands :=
    (Plan.Entry.commands_eq_request hasks.messages hasks.symbols hasks.market).trans
      entry.commands_ofFlags.symm
  unfold Invocation.runWith
  rw [hasks.command, Plan.Entry.outputs, Plan.Entry.fails, hcommands]
  exact Logging.outcome_report _ _

variable {p : Plan} {runs : List Outcome}

/-- Runs with flags print one after another what their entries print. -/
theorem Plan.stdout_of_flags {entries : List Plan.Entry}
    (h : List.Forall₂ Plan.Entry.FlagsRunTo entries runs) :
    unlines (entries.flatMap Plan.Entry.outputs) = String.join (runs.map Outcome.stdout) := by
  induction h with
  | nil => rfl
  | cons hrun _ ih =>
    rw [List.flatMap_cons, unlines_append, ih, List.map_cons, String.join_cons, hrun.spec.1]

/-- As many runs with flags fail as entries do. -/
theorem Plan.failures_of_flags {entries : List Plan.Entry}
    (h : List.Forall₂ Plan.Entry.FlagsRunTo entries runs) :
    entries.countP Plan.Entry.fails = runs.countP (·.exitCode ≠ 0) := by
  induction h with
  | nil => rfl
  | cons hrun _ ih =>
    rw [List.countP_cons, List.countP_cons, ih]
    simp only [decide_eq_true_eq, hrun.spec.2]

/-- The program warns of skipped entries just when there are any. -/
theorem Plan.exists_warning_iff (p : Plan) (path : String) :
    (∃ e ∈ p.ownEvents path, e.level = .warn) ↔ p.failures ≠ 0 := by
  have hnote : ∀ e ∈ p.entries.mapIdx fun index entry => entry.note index, e.level ≠ .warn := by
    intro e he
    obtain ⟨index, hindex, rfl⟩ := List.mem_mapIdx.mp he
    unfold Plan.Entry.note
    split <;> exact fun h => by cases h
  rw [Plan.ownEvents_eq]
  constructor
  · rintro ⟨e, he, hwarn⟩ hzero
    rw [skippedEvents, hzero, if_neg (Nat.lt_irrefl 0), List.append_nil] at he
    rcases List.mem_cons.mp he with rfl | he
    · cases hwarn
    · exact hnote e he hwarn
  · intro hne
    rw [skippedEvents, if_pos (Nat.pos_of_ne_zero hne)]
    exact ⟨_, List.mem_cons_of_mem _ (List.mem_append_right _ (List.mem_singleton_self _)), rfl⟩

/-- **A plan does what flags do.**  For each entry of a plan there is a run with flags that ask for
    the same.  The plan prints what these runs print one after another; those that fail print
    nothing, and the plan logs as many errors, and warns just when there are any. -/
theorem Plan.run_eq_flags {inv : Invocation} {load : String → Except Plan.LoadError Plan}
    {path : String} (hplan : inv.Loads load path p) (choice : Filter.Choice)
    (h : List.Forall₂ Plan.Entry.FlagsRunTo p.entries runs) :
    (inv.runWith load (.ok choice)).stdout = String.join (runs.map Outcome.stdout) ∧
    (∀ r ∈ runs, r.exitCode ≠ 0 → r.stdout = "") ∧
    (p.ownEvents path).countP (·.level = .error) = runs.countP (·.exitCode ≠ 0) ∧
    ((∃ e ∈ p.ownEvents path, e.level = .warn) ↔ ∃ r ∈ runs, r.exitCode ≠ 0) ∧
    (∀ r, runs = [r] → (inv.runWith load (.ok choice)).stdout = r.stdout ∧
      (r.exitCode = 0 ↔ ∀ e ∈ p.ownEvents path, e.level ≠ .warn)) := by
  have hrun : p.RunsTo (inv.runWith load (.ok choice)) := ⟨inv, load, path, choice, hplan, rfl⟩
  have hstdout : (inv.runWith load (.ok choice)).stdout = String.join (runs.map Outcome.stdout) :=
    hrun.stdout_eq.trans (Plan.stdout_of_flags h)
  have hfailures : p.failures = runs.countP (·.exitCode ≠ 0) := Plan.failures_of_flags h
  have hwarning : (∃ e ∈ p.ownEvents path, e.level = .warn) ↔ ∃ r ∈ runs, r.exitCode ≠ 0 := by
    rw [Plan.exists_warning_iff, hfailures, ← Nat.pos_iff_ne_zero, List.countP_pos_iff]
    simp only [decide_eq_true_eq]
  refine ⟨hstdout, ?_, ?_, hwarning, ?_⟩
  · intro r hr hexit
    obtain ⟨entry, -, hentry⟩ := exists_of_forall₂_right h hr
    have hfails : entry.outputs = [] := by
      have hnone := hentry.spec.2.mp hexit
      rw [Plan.Entry.fails, Option.isNone_iff_eq_none] at hnone
      rw [Plan.Entry.outputs, hnone]
      rfl
    rw [hentry.spec.1, hfails]
    rfl
  · rw [← Plan.failures_eq_countP, hfailures]
  · rintro r rfl
    refine ⟨?_, fun hzero e he hwarn => ?_, fun hquiet => ?_⟩
    · rw [hstdout, List.map_singleton, String.join_cons, String.join_nil, String.append_empty]
    · obtain ⟨r', hr', hne⟩ := hwarning.mp ⟨e, he, hwarn⟩
      rw [List.mem_singleton.mp hr'] at hne
      exact hne hzero
    · by_contra hne
      obtain ⟨e, he, hwarn⟩ := hwarning.mpr ⟨r, List.mem_singleton_self r, hne⟩
      exact hquiet e he hwarn

/-- A plan for OKX and Kraken does what two command lines do, one of which fails. -/
theorem Plan.run_eq_flags_okx :
    ∃ (inv okx kraken : Invocation) (p : Plan),
      Invocation.ofArguments ["plan", "p"] = .ok inv ∧
      Invocation.ofArguments ["ws-commands", "--exchange= OKX", "--msg-type=candlestick",
        "--symbol=BTC-USDT", "--unsubscribe", "--interval=1m"] = .ok okx ∧
      Invocation.ofArguments ["ws-commands", "--exchange=kraken", "--msg-type=trade",
        "--symbol=XBT/USD"] = .ok kraken ∧
      p.entries.length = 2 ∧
      (∀ choice, (inv.runWith (fun _ => .ok p) (.ok choice)).stdout =
        (okx.run { directory := "/" } none).stdout
          ++ (kraken.run { directory := "/" } none).stdout) ∧
      (kraken.run { directory := "/" } none).stdout = "" ∧
      (p.ownEvents "p").countP (·.level = .error) = 1 ∧
      ∃ e ∈ p.ownEvents "p", e.level = .warn := by
  let inv : Invocation := { command := .plan "p" }
  let okx : Invocation := {
    command := .wsCommands " OKX" [.candlestick] ["BTC-USDT"] true (some "1m") }
  let kraken : Invocation := { command := .wsCommands "kraken" [.trade] ["XBT/USD"] false none }
  let first : Plan.Entry := {
    exchange := " OKX", market := .europeanOption
    selection := {
      messages := [.candlestick], symbols := ["BTC-USDT"], subscribe := false
      params := { entries? := some [("depth", "5"), ("interval", "1m")] } } }
  let second : Plan.Entry := {
    exchange := "kraken", market := .inverseSwap
    selection := { messages := [.trade], symbols := ["XBT/USD"] } }
  let p : Plan := { entries := [first, second] }
  have hokx : Vocabulary.parse? (α := Exchange) " OKX" = some .okx := by decide +kernel
  have hkraken : Vocabulary.parse? (α := Exchange) "kraken" = some .kraken := by decide +kernel
  have hfirst : okx.command.AsksFor first :=
    ⟨rfl, by decide, by decide, fun e he => Option.some.inj (hokx.symm.trans he) ▸ by decide⟩
  have hsecond : kraken.command.AsksFor second :=
    ⟨rfl, by decide, by decide, fun e he => Option.some.inj (hkraken.symm.trans he) ▸ by decide⟩
  have hloads : inv.Loads (fun _ => .ok p) "p" p := ⟨rfl, rfl⟩
  have hexits : [okx.run { directory := "/" } none, kraken.run { directory := "/" } none].countP
      (·.exitCode ≠ 0) = 1 := by
    decide +kernel
  have hexit : (kraken.run { directory := "/" } none).exitCode ≠ 0 := by decide +kernel
  have hagree := fun choice => Plan.run_eq_flags hloads choice
    (.cons ⟨okx, Plan.load { directory := "/" }, _, hfirst,
        (Invocation.run_eq_runWith Filter.choose_info).symm⟩
      (.cons ⟨kraken, Plan.load { directory := "/" }, _, hsecond,
        (Invocation.run_eq_runWith Filter.choose_info).symm⟩ .nil))
  obtain ⟨-, hnothing, herrors, hwarning, -⟩ := hagree { filter := Filter.errors }
  refine ⟨inv, okx, kraken, p, by decide +kernel, by decide +kernel, by decide +kernel, rfl,
    fun choice => ?_, hnothing _ (by simp) hexit, herrors.trans hexits,
    hwarning.mpr ⟨_, by simp, hexit⟩⟩
  rw [(hagree choice).1]
  simp

end MarketFeed
