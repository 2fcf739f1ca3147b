import MarketFeed.Proofs.Run.Failure

namespace MarketFeed

/-!
# Runs — logging changes nothing

What a run prints and how it ends is decided by its command; the log only shows what happens.

* `Command.plan?` — the plan that a command has loaded when it opens its log.
* `Task.events`, `Command.isPlain_of_task` — what a task logs, which can be written as it is.
* `Logging.outcome_congr`, `Logging.shown_outcome`, `Logging.logFile?_outcome` — what a log has no part
  in, what its console shows, and what its file holds.
* `run_logging_independent` — runs of one command differ in their logs alone; the lines of the log
  file are those that the error stream shows.
-/

open Log

/-- The plan that a command loads. -/
def Command.plan? (load : String → Except Plan.LoadError Plan) : Command → Option Plan
  | .plan path => (load path).toOption
  | _ => none

variable {load : String → Except Plan.LoadError Plan} {c : Command}

/-- The task of a command that opens a log names the directory of the plan, if there is a plan and it
    names one. -/
theorem Command.Opens.exists_task (h : c.Opens load) :
    ∃ t, c.task load = .ok t ∧ t.logPath? = (c.plan? load).bind Plan.logPath? := by
  cases c with
  | marketTypes exchange => exact ⟨_, rfl, rfl⟩
  | wsCommands exchange messages symbols unsubscribe interval? => exact ⟨_, rfl, rfl⟩
  | plan path =>
    obtain ⟨p, hp⟩ := h path rfl
    rw [Command.task, Command.plan?, hp]
    exact ⟨_, rfl, rfl⟩

/-! ### What is logged -/

/-- What a task logs, before the log is filtered. -/
def Task.events (t : Task) : List Event := (t.report.toOption.map Report.events).getD []

/-- What is logged while commands are built can be written to a log as it is. -/
theorem Request.isPlain_of_build {r : Request} {b : Built} (h : r.build = .ok b) :
    ∀ e ∈ b.events, e.IsPlain := by
  intro e he
  have htarget := Request.target_of_build h e he
  rw [Event.IsPlain, htarget]
  decide

/-- What is logged of an entry can. -/
theorem Plan.Entry.isPlain_report (entry : Plan.Entry) (index : Nat) :
    ∀ e ∈ (entry.report index).events, e.IsPlain := by
  have hown : '\x1b' ∉ "cmt".toList := by decide
  unfold Plan.Entry.report
  cases hbuild : entry.build with
  | error err => exact List.forall_mem_singleton.mpr hown
  | ok b =>
    obtain ⟨-, -, hrequest⟩ := bind_eq_ok_iff.mp hbuild
    simp only [Report.events_append, List.forall_mem_append]
    exact ⟨Request.isPlain_of_build hrequest, List.forall_mem_singleton.mpr hown⟩

/-- What is logged of a plan can. -/
theorem Plan.isPlain_report (p : Plan) (path : String) :
    ∀ e ∈ (p.report path).events, e.IsPlain := by
  have hown : '\x1b' ∉ "cmt".toList := by decide
  -- what was logged before an entry stays plain when the entry is taken
  have hrun : ∀ (entries : List Plan.Entry) (s : Plan.Progress),
      (∀ e ∈ s.report.events, e.IsPlain) →
      ∀ e ∈ (entries.foldl Plan.Progress.take s).report.events, e.IsPlain := by
    intro entries
    induction entries with
    | nil => exact fun s hs => hs
    | cons entry entries ih =>
      intro s hs
      apply ih
      rw [Plan.Progress.take, Report.events_append, List.forall_mem_append]
      exact ⟨hs, entry.isPlain_report s.taken⟩
  have hskipped : ∀ skipped total, ∀ e ∈ skippedEvents skipped total, e.IsPlain := by
    intro skipped total
    unfold skippedEvents
    split
    · exact List.forall_mem_singleton.mpr hown
    · exact List.forall_mem_nil _
  rw [Plan.report, Report.events_append, List.forall_mem_append]
  exact ⟨hrun p.entries _ (List.forall_mem_singleton.mpr hown), hskipped _ _⟩

/-- **What a command logs can be written to a log as it is.** -/
theorem Command.isPlain_of_task {t : Task} (h : c.task load = .ok t) :
    ∀ e ∈ t.events, e.IsPlain := by
  -- only building commands and running a plan log anything
  cases c with
  | marketTypes exchange =>
    obtain rfl := Except.ok.inj h
    unfold Task.events marketTypesReport
    cases Vocabulary.parse (α := Exchange) exchange with
    | error e => exact List.forall_mem_nil _
    | ok e => exact List.forall_mem_nil _
  | wsCommands exchange messages symbols unsubscribe interval? =>
    obtain rfl := Except.ok.inj h
    unfold Task.events Request.report
    cases hbuild : Request.build _ with
    | error e => exact List.forall_mem_nil _
    | ok b => exact Request.isPlain_of_build hbuild
  | plan path =>
    obtain ⟨p, -, rfl⟩ := map_eq_ok_iff.mp h
    exact p.isPlain_report path

/-! ### What is shown -/

variable (l l' : Logging) (t : Task)

/-- What is shown of a task is what it logs, filtered. -/
theorem Logging.events_outcome :
    (l.outcome t.report).events = t.events.filter l.choice.filter.enabled := by
  unfold Task.events
  cases t.report with
  | error e => rw [Logging.outcome_error]; rfl
  | ok r => rw [Logging.outcome_ok]; rfl

/-- The console shows the events in colours. -/
theorem Logging.shown_outcome :
    (l.outcome t.report).console = (l.outcome t.report).events.map Layer.console.entry := by
  cases t.report with
  | error e => rw [Logging.outcome_error]; rfl
  | ok r => rw [Logging.outcome_ok]

/-- The log file is in the directory that was chosen, and holds the same events without colours. -/
theorem Logging.logFile?_outcome :
    (l.outcome t.report).logFile? = l.directory?.map fun directory => {
      directory, name := l.name
      entries := (l.outcome t.report).events.map Layer.file.entry } := by
  cases t.report with
  | error e => rw [Logging.outcome_error]; rfl
  | ok r => rw [Logging.outcome_ok]

/-- What is printed and how a run ends does not depend on its log. -/
theorem Logging.outcome_congr :
    (l.outcome t.report).stdout = (l'.outcome t.report).stdout ∧
    (l.outcome t.report).exitCode = (l'.outcome t.report).exitCode := by
  cases t.report with
  | error e => exact ⟨rfl, rfl⟩
  | ok r => exact ⟨rfl, rfl⟩

variable {inv inv' : Invocation} {files : Files} {preferred? preferred'? : Option String}

/-- A run that opens a log and gets past its filter is the outcome of its task with that log. -/
theorem Invocation.run_of_task {t : Task} (htask : inv.command.task (Plan.load files) = .ok t)
    (hfilter : inv.PassesFilter files preferred?) :
    ∃ choice, Filter.choose preferred? inv.logLevel = .ok choice ∧
      inv.run files preferred? = Logging.outcome {
        choice, directory? := inv.logDirectory?.or t.logPath?, name := t.logName } t.report := by
  obtain ⟨choice, hchoice⟩ := hfilter (Command.opens_of_task htask)
  exact ⟨choice, hchoice, by
    rw [Invocation.run, Invocation.runWith_of_ok htask, hchoice, outcomeWith_ok]⟩

/-- Two runs of one command print the same and end alike. -/
theorem Invocation.run_congr (h : inv'.command = inv.command)
    (hfilter : inv.PassesFilter files preferred?) (hfilter' : inv'.PassesFilter files preferred'?) :
    (inv.run files preferred?).stdout = (inv'.run files preferred'?).stdout ∧
    (inv.run files preferred?).exitCode = (inv'.run files preferred'?).exitCode := by
  -- the task is a matter of the command alone
  cases htask : inv.command.task (Plan.load files) with
  | error e =>
    have htask' : inv'.command.task (Plan.load files) = .error e := by rw [h, htask]
    rw [Invocation.run, Invocation.run, Invocation.runWith_of_error htask,
      Invocation.runWith_of_error htask']
    exact ⟨rfl, rfl⟩
  | ok t =>
    have htask' : inv'.command.task (Plan.load files) = .ok t := by rw [h, htask]
    obtain ⟨choice, -, hrun⟩ := Invocation.run_of_task htask hfilter
    obtain ⟨choice', -, hrun'⟩ := Invocation.run_of_task htask' hfilter'
    rw [hrun, hrun']
    exact Logging.outcome_congr _ _ t

/-- What is shown on the console are the events that pass, in colours. -/
theorem Invocation.console_run (hfilter : inv.PassesFilter files preferred?) :
    (inv.run files preferred?).console =
      (inv.run files preferred?).events.map Layer.console.entry := by
  cases htask : inv.command.task (Plan.load files) with
  | error e =>
    rw [Invocation.run, Invocation.runWith_of_error htask]
    rfl
  | ok t =>
    obtain ⟨choice, -, hrun⟩ := Invocation.run_of_task htask hfilter
    rw [hrun, Logging.shown_outcome]

/-- A run at the level `trace` shows all that another run of its command shows, in the same order. -/
theorem Invocation.events_sublist (h : inv'.command = inv.command)
    (hfilter : inv.PassesFilter files preferred?)
    (htraces : Filter.Traces preferred'? inv'.logLevel) :
    (inv.run files preferred?).events.Sublist (inv'.run files preferred'?).events := by
  cases htask : inv.command.task (Plan.load files) with
  | error e =>
    rw [Invocation.run, Invocation.runWith_of_error htask]
    exact List.nil_sublist _
  | ok t =>
    have htask' : inv'.command.task (Plan.load files) = .ok t := by rw [h, htask]
    obtain ⟨choice, -, hrun⟩ := Invocation.run_of_task htask hfilter
    -- the run at the level `trace` filters nothing, so it shows all that the task logs
    have hall : (inv'.run files preferred'?).events = t.events := by
      rw [Invocation.run, Filter.choose_of_traces htraces, Invocation.runWith_of_ok htask',
        outcomeWith_ok, Logging.events_outcome]
      simp
    rw [hall, hrun, Logging.events_outcome]
    exact List.filter_sublist

/-- A run that opens a log writes a log file just when a directory is named for it. -/
theorem Invocation.directory_run (h : inv.command.Opens (Plan.load files))
    (hfilter : inv.PassesFilter files preferred?) :
    (inv.run files preferred?).logFile?.map LogFile.directory =
      inv.logDirectory?.or ((inv.command.plan? (Plan.load files)).bind Plan.logPath?) := by
  obtain ⟨t, htask, hpath⟩ := h.exists_task
  obtain ⟨choice, -, hrun⟩ := Invocation.run_of_task htask hfilter
  rw [hrun, Logging.logFile?_outcome, Option.map_map, ← hpath]
  exact Option.map_id'

/-- The lines of a log file are the lines of the log on the error stream, without their colours. -/
theorem Invocation.lines_logFile {f : LogFile} (hfilter : inv.PassesFilter files preferred?)
    (h : (inv.run files preferred?).logFile? = some f) :
    f.entries = (inv.run files preferred?).events.map Layer.file.entry ∧
    f.lines = ((inv.run files preferred?).console.flatMap Text.lines).map withoutStyle := by
  cases htask : inv.command.task (Plan.load files) with
  | error e =>
    rw [Invocation.run, Invocation.runWith_of_error htask] at h
    cases h
  | ok t =>
    obtain ⟨choice, -, hrun⟩ := Invocation.run_of_task htask hfilter
    rw [hrun] at h ⊢
    rw [Logging.logFile?_outcome, Option.map_eq_some_iff] at h
    obtain ⟨directory, -, rfl⟩ := h
    have hplain : ∀ l : Logging, ∀ e ∈ (l.outcome t.report).events, e.IsPlain := by
      intro l e he
      rw [Logging.events_outcome] at he
      exact Command.isPlain_of_task htask e (List.mem_of_mem_filter he)
    exact ⟨rfl, by rw [Logging.shown_outcome, Layer.map_lines_entries (hplain _), LogFile.lines]⟩

/-- **Logging changes nothing.**  Two runs of one command on the same files print the same and end
    alike, whatever their log filters, levels and directories are.  The error stream shows the events
    that pass the filter, in colours, between the complaints and the error; it shows part of what it
    shows in a run at the level `trace`, in the same order.  A run that gets as far as opening a log
    writes one log file if a directory is asked for, or else the plan names one, and none otherwise;
    the lines of the file are just those of the log on the error stream, without colours. -/
theorem run_logging_independent {arguments arguments' : List String}
    (h : Invocation.ofArguments arguments = .ok inv)
    (h' : Invocation.ofArguments arguments' = .ok inv') (hcommand : inv'.command = inv.command)
    (files : Files) (preferred? preferred'? : Option String)
    (hfilter : inv.PassesFilter files preferred?) (hfilter' : inv'.PassesFilter files preferred'?) :
    ∃ o o', run arguments files preferred? = .ok o ∧ run arguments' files preferred'? = .ok o' ∧
      o.stdout = o'.stdout ∧ o.exitCode = o'.exitCode ∧
      o.console = o.events.map Layer.console.entry ∧
      (∀ d, o.stderr d = o.complaints.flatMap Text.lines ++ o.console.flatMap Text.lines
        ++ o.ending.lines d) ∧
      (Filter.Traces preferred'? inv'.logLevel →
        o.events.Sublist o'.events ∧ o.console.Sublist o'.console) ∧
      (inv.command.Opens (Plan.load files) → o.logFile?.map LogFile.directory =
        inv.logDirectory?.or ((inv.command.plan? (Plan.load files)).bind Plan.logPath?)) ∧
      ∀ f, o.logFile? = some f →
        f.entries = o.events.map Layer.file.entry ∧
        f.lines = (o.console.flatMap Text.lines).map withoutStyle := by
  obtain ⟨hstdout, hexit⟩ := Invocation.run_congr hcommand hfilter hfilter'
  refine ⟨inv.run files preferred?, inv'.run files preferred'?, by rw [run, h]; rfl,
    by rw [run, h']; rfl, hstdout, hexit, Invocation.console_run hfilter, fun d => rfl, ?_, ?_, ?_⟩
  · intro htraces
    have hevents := Invocation.events_sublist hcommand hfilter htraces
    refine ⟨hevents, ?_⟩
    rw [Invocation.console_run hfilter, Invocation.console_run hfilter']
    exact hevents.map _
  · exact fun hopens => Invocation.directory_run hopens hfilter
  · exact fun f hf => Invocation.lines_logFile hfilter hf

/-- A plan logs where it says, unless another directory is asked for.  At the level `error` nothing
    of this plan is shown, and nothing else changes. -/
theorem run_logging_independent_logs :
    ∃ (files : Files) (o o' : Outcome),
      run ["plan", "p", "--log-level=error"] files none = .ok o ∧
      run ["--log-dir=here", "plan", "p"] files (some "trace") = .ok o' ∧
      o.stdout = o'.stdout ∧ o.exitCode = o'.exitCode ∧ o.events.Sublist o'.events ∧
      o.logFile?.map LogFile.directory = some "logs" ∧
      o'.logFile?.map LogFile.directory = some "here" := by
  let files : Files := {
    directory := "/"
    contents := [("p", "\x7b\"log_path\":\"logs\",\"subscriptions\":[]\x7d".toUTF8)] }
  let inv : Invocation := { command := .plan "p", logLevel := "error" }
  let inv' : Invocation := { command := .plan "p", logDirectory? := some "here" }
  have hload : Plan.load files "p" = .ok { logPath? := some "logs", entries := [] } := by
    decide +kernel
  have hopens : Command.Opens (Plan.load files) (.plan "p") := by
    rintro path ⟨⟩
    exact ⟨_, hload⟩
  have hplan : Command.plan? (Plan.load files) (.plan "p") =
      some { logPath? := some "logs", entries := [] } := by
    rw [Command.plan?, hload]
    rfl
  have h : Invocation.ofArguments ["plan", "p", "--log-level=error"] = .ok inv := by
    decide +kernel
  have h' : Invocation.ofArguments ["--log-dir=here", "plan", "p"] = .ok inv' := by
    decide +kernel
  have hfilter : inv.PassesFilter files none := fun _ =>
    ⟨{ filter := Filter.errors }, by decide +kernel⟩
  have hfilter' : inv'.PassesFilter files (some "trace") := fun _ =>
    ⟨_, Filter.choose_of_traces (.inl rfl)⟩
  obtain ⟨o, o', ho, ho', hstdout, hexit, -, -, hshown, hdirectory, -⟩ :=
    run_logging_independent h h' rfl files none (some "trace") hfilter hfilter'
  obtain ⟨o'', -, ho'', -, -, -, -, -, -, hdirectory', -⟩ :=
    run_logging_independent h' h rfl files (some "trace") none hfilter' hfilter
  obtain rfl : o' = o'' := Except.ok.inj (ho'.symm.trans ho'')
  refine ⟨files, o, o', ho, ho', hstdout, hexit, (hshown (.inl rfl)).1, ?_, hdirectory' hopens⟩
  rw [hdirectory hopens, hplan]
  rfl

end MarketFeed
